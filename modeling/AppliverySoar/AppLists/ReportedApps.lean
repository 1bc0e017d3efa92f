import AppliverySoar.AppLists.InstalledApps
import AppliverySoar.Js.Gather
import Mathlib.Data.List.Dedup
import Mathlib.Data.List.Perm.Basic

/-!
# The apps of a fleet

`getReportedAppsOverview` (installedApps.service.ts, lines 537–628): the apps that
the two slots of every device list, with a row for each device that has the app.

Results:
* `rowsOf_overview_eq`: the row of a device and an app.
* `overview_faithful_iff`: each device and app has one row, with all the slots that
  list the app, exactly when the slots of a device agree on the platform of an app
  that both list.
* `overview_twice`: a Mac with an entry from before Macs had a platform of their own.
-/

namespace AppliverySoar.AppLists

open Compliance Js Workflows List
open DeviceData (Collation)

/-! ## The store -/

/-- `InstalledAppsEntry` as it is stored: the time may be missing. Whoever writes an entry leaves
out the apps without a version. -/
structure StoredEntry where
  platform : String
  fetchedAt : Option ℕ
  error : Option String
  source : AppsSource
  apps : List InstalledApp
  versioned : ∀ app ∈ apps, app.version ≠ ""

/-- The record of a device. An entry names the slot that it is in. -/
structure StoredRecord where
  deviceId : String
  selfReported : Option StoredEntry
  serverFetch : Option StoredEntry
  self_source : ∀ entry ∈ selfReported, entry.source = .selfReported
  server_source : ∀ entry ∈ serverFetch, entry.source = .serverFetch

/-- The slot of a source. -/
def StoredRecord.slot (r : StoredRecord) : AppsSource → Option StoredEntry
  | .selfReported => r.selfReported
  | .serverFetch => r.serverFetch

/-- `loadInstalledAppsStore`: a record for each device. -/
structure InstalledAppsStore where
  records : List StoredRecord
  nodup : (records.map StoredRecord.deviceId).Nodup

/-! ## Model -/

structure AppContribution where
  entry : StoredEntry
  app : InstalledApp

/-- The time of the entry. -/
def AppContribution.time (c : AppContribution) : ℕ :=
  c.entry.fetchedAt.getD 0

def AppContribution.key (c : AppContribution) : String :=
  c.entry.platform ++ ":" ++ c.app.identifier

/-- The entries of a device. -/
def StoredRecord.entries (r : StoredRecord) : List StoredEntry :=
  r.selfReported.toList ++ r.serverFetch.toList

/-- The apps of the entries that have a time. -/
def StoredRecord.contributions (r : StoredRecord) : List AppContribution :=
  (r.entries.filter fun entry => entry.fetchedAt.isSome).flatMap fun entry =>
    entry.apps.map fun app => ⟨entry, app⟩

/-- A value of `perDeviceApps`. -/
structure Bucket where
  platform : String
  contributions : List AppContribution

/-- `bucket.contributions.push(…)`. -/
def pushContribution (bucket : Option Bucket) (c : AppContribution) : Option Bucket :=
  let bucket := bucket.getD ⟨c.entry.platform, []⟩
  some { bucket with contributions := bucket.contributions ++ [c] }

def perDeviceApps (r : StoredRecord) : OrderedMap Bucket :=
  OrderedMap.gather AppContribution.key pushContribution r.contributions

structure VersionsBySource where
  selfReported : Option String := none
  serverFetch : Option String := none

/-- `versionsBySource[source] = version`. -/
def VersionsBySource.set (versions : VersionsBySource) (source : AppsSource) (version : String) :
    VersionsBySource :=
  match source with
  | .selfReported => { versions with selfReported := some version }
  | .serverFetch => { versions with serverFetch := some version }

structure ReportedAppDeviceRef where
  deviceId : String
  deviceName : String
  version : Option String
  versionsBySource : Option VersionsBySource
  sources : List AppsSource
  lastSyncAt : Option ℕ
  updateAvailable : Bool
  lastFetchError : Option String
  productCode : Option String
  enforcedByPolicy : Bool
  origin : Option String
  installLocation : Option String
  sha256 : Option String

structure ReportedAppSummary where
  identifier : String
  name : String
  platform : String
  deviceCount : ℕ := 0
  versions : List String := []
  sources : List AppsSource := []
  devicesWithPendingUpdate : ℕ := 0
  devicesEnforcedByPolicy : ℕ := 0
  devices : List ReportedAppDeviceRef := []

/-- `ranked[0]`: the contribution of the latest time, of several the first. -/
def primary (contributions : List AppContribution) : Option AppContribution :=
  (contributions.mergeSort fun a b => b.time ≤ a.time).head?

/-- `versionsBySource`, where the sources disagree. -/
def divergence (contributions : List AppContribution) : Option VersionsBySource :=
  if 1 < ((contributions.map fun c => c.app.version).filter (· ≠ "")).eraseDups.length then
    some (contributions.foldl (fun versions c =>
      if c.app.version ≠ "" then versions.set c.entry.source c.app.version else versions) {})
  else none

/-- The row of a device. -/
def deviceRow (deviceId deviceName : String) (contributions : List AppContribution) :
    ReportedAppDeviceRef where
  deviceId := deviceId
  deviceName := deviceName
  version := (primary contributions).map fun c => c.app.version
  versionsBySource := divergence contributions
  sources := (contributions.map fun c => c.entry.source).eraseDups
  lastSyncAt := (primary contributions).bind fun c => c.entry.fetchedAt
  updateAvailable := contributions.any fun c => c.app.updateAvailable = some true
  lastFetchError := (contributions.find? fun c => c.entry.source = .serverFetch).bind fun c =>
    c.entry.error
  productCode := contributions.findSome? fun c => truthy c.app.productCode
  enforcedByPolicy := contributions.any fun c => c.app.enforcedByPolicy = some true
  origin := contributions.findSome? fun c => truthy c.app.origin
  installLocation := contributions.findSome? fun c => truthy c.app.installLocation
  sha256 := contributions.findSome? fun c => truthy c.app.sha256

/-- An app of a device, as the second loop goes over them. -/
structure DeviceApp where
  deviceId : String
  deviceName : String
  key : String
  bucket : Bucket

def DeviceApp.identifier (t : DeviceApp) : String :=
  t.bucket.contributions.head?.elim "" fun c => c.app.identifier

/-- The row of the app on its device. -/
def DeviceApp.row (t : DeviceApp) : ReportedAppDeviceRef :=
  deviceRow t.deviceId t.deviceName t.bucket.contributions

/-- `items.includes(item) || items.push(item)`. -/
def pushNew {α : Type} [DecidableEq α] (items : List α) (item : α) : List α :=
  if item ∈ items then items else items ++ [item]

/-- A contribution in the summary. -/
def noteContribution (summary : ReportedAppSummary) (c : AppContribution) : ReportedAppSummary :=
  { summary with
    name := ((truthy c.app.name).filter fun _ => summary.name = summary.identifier).getD
      summary.name
    versions := if c.app.version = "" then summary.versions
      else pushNew summary.versions c.app.version }

/-- An app of a device in `byIdentifier`. -/
def addDeviceApp (summary : Option ReportedAppSummary) (t : DeviceApp) :
    Option ReportedAppSummary :=
  let summary := summary.getD
    { identifier := t.identifier, name := t.identifier, platform := t.bucket.platform }
  let noted := t.bucket.contributions.foldl noteContribution summary
  some { noted with
    sources := t.row.sources.foldl pushNew noted.sources
    devices := noted.devices ++ [t.row] }

/-- `device?.displayName || deviceId`. -/
def nameOf (devices : List DeviceCore) (deviceId : String) : String :=
  (truthy ((devices.reverse.find? fun d => d.id = deviceId).map DeviceCore.displayName)).getD
    deviceId

/-- What the second loop goes over. -/
def deviceApps (store : InstalledAppsStore) (devices : List DeviceCore) : List DeviceApp :=
  store.records.flatMap fun r => (perDeviceApps r).entries.map fun e =>
    ⟨r.deviceId, nameOf devices r.deviceId, e.1, e.2⟩

def byIdentifier (store : InstalledAppsStore) (devices : List DeviceCore) :
    OrderedMap ReportedAppSummary :=
  OrderedMap.gather DeviceApp.key addDeviceApp (deviceApps store devices)

/-- The lists sorted, and the counts. -/
def ReportedAppSummary.finish (collation : Collation) (app : ReportedAppSummary) :
    ReportedAppSummary :=
  { app with
    versions := app.versions.mergeSort collation.unitsLe
    sources := app.sources.mergeSort fun a b => a = .selfReported ∨ b = .serverFetch
    devices := app.devices.mergeSort fun a b => collation.localeLe a.deviceName b.deviceName
    deviceCount := app.devices.length
    devicesWithPendingUpdate := (app.devices.filter fun d => d.updateAvailable).length
    devicesEnforcedByPolicy := (app.devices.filter fun d => d.enforcedByPolicy).length }

/-- The order of the apps: the most widespread ones first, then by name. -/
def appBefore (collation : Collation) (a b : ReportedAppSummary) : Bool :=
  decide (b.deviceCount < a.deviceCount) ||
    (decide (b.deviceCount = a.deviceCount) && collation.localeLe a.name b.name)

/-- What `getReportedAppsOverview` returns. -/
structure ReportedAppsOverview where
  apps : List ReportedAppSummary
  devicesWithData : ℕ
  lastRefreshedAt : Option ℕ

def getReportedAppsOverview (collation : Collation) (store : InstalledAppsStore)
    (devices : List DeviceCore) : ReportedAppsOverview where
  apps := ((byIdentifier store devices).values.map
    (ReportedAppSummary.finish collation)).mergeSort (appBefore collation)
  devicesWithData := (store.records.filter fun r => !r.entries.isEmpty).length
  lastRefreshedAt := ((store.records.flatMap StoredRecord.entries).filterMap
    StoredEntry.fetchedAt).foldl (fun latest time => some (latest.elim time (max · time))) none

/-! ## What is asked of it -/

/-- The contributions of an app. -/
def StoredRecord.listing (r : StoredRecord) (identifier : String) : List AppContribution :=
  r.contributions.filter fun c => c.app.identifier = identifier

/-- A slot with a time lists the app. -/
def StoredRecord.SlotLists (r : StoredRecord) (source : AppsSource) (identifier : String) : Prop :=
  ∃ entry ∈ r.slot source, entry.fetchedAt.isSome ∧ ∃ app ∈ entry.apps,
    app.identifier = identifier

/-- The rows of a device and an app. -/
def rowsOf (apps : List ReportedAppSummary) (deviceId identifier : String) :
    List ReportedAppDeviceRef :=
  (apps.filter fun a => a.identifier = identifier).flatMap fun a =>
    a.devices.filter fun d => d.deviceId = deviceId

/-- **One row for each device and app** that a slot with a time lists: it has the slots that list
the app and the version of a latest contribution. No version is lost, and the count is that of the
devices. -/
structure FaithfulOverview (store : InstalledAppsStore) (apps : List ReportedAppSummary) :
    Prop where
  rows : ∀ r ∈ store.records, ∀ identifier, (∃ source, r.SlotLists source identifier) →
    ∃ row, rowsOf apps r.deviceId identifier = [row] ∧
      (∀ source, source ∈ row.sources ↔ r.SlotLists source identifier) ∧
      ∃ c ∈ r.listing identifier, row.version = some c.app.version ∧
        ∀ c' ∈ r.listing identifier, c'.time ≤ c.time
  versions : ∀ r ∈ store.records, ∀ c ∈ r.contributions, ∃ a ∈ apps,
    a.identifier = c.app.identifier ∧ (∃ row ∈ a.devices, row.deviceId = r.deviceId) ∧
      c.app.version ∈ a.versions
  counts : ∀ a ∈ apps, a.deviceCount =
    (a.devices.map ReportedAppDeviceRef.deviceId).dedup.length

/-- No two apps of the store have one key. -/
def InstalledAppsStore.KeysApart (store : InstalledAppsStore) : Prop :=
  ∀ r ∈ store.records, ∀ r' ∈ store.records, ∀ c ∈ r.contributions, ∀ c' ∈ r'.contributions,
    c.key = c'.key → c.app.identifier = c'.app.identifier

/-- Slots of a device that list an app name one platform. -/
def InstalledAppsStore.OnePlatform (store : InstalledAppsStore) : Prop :=
  ∀ r ∈ store.records, ∀ c ∈ r.contributions, ∀ c' ∈ r.contributions,
    c.app.identifier = c'.app.identifier → c.entry.platform = c'.entry.platform

/-! ## Contributions -/

section Contributions

variable {r : StoredRecord} {c c' : AppContribution} {identifier k : String} {source : AppsSource}

theorem mem_contributions : c ∈ r.contributions ↔
    c.entry ∈ r.entries ∧ c.entry.fetchedAt.isSome ∧ c.app ∈ c.entry.apps := by
  unfold StoredRecord.contributions
  rw [mem_flatMap]
  constructor
  · rintro ⟨entry, hentry, hc⟩
    obtain ⟨app, happ, rfl⟩ := mem_map.mp hc
    exact ⟨mem_of_mem_filter hentry, (mem_filter.mp hentry).2, happ⟩
  · rintro ⟨hentry, htime, happ⟩
    exact ⟨c.entry, mem_filter.mpr ⟨hentry, htime⟩, mem_map.mpr ⟨c.app, happ, rfl⟩⟩

variable {entry : StoredEntry}

theorem mem_entries_iff : entry ∈ r.entries ↔ entry ∈ r.slot entry.source := by
  unfold StoredRecord.entries
  rw [mem_append, Option.mem_toList, Option.mem_toList]
  constructor
  · rintro (h | h)
    · rwa [r.self_source entry h]
    · rwa [r.server_source entry h]
  · intro h
    cases hsource : entry.source with
    | selfReported =>
      rw [hsource] at h
      exact .inl h
    | serverFetch =>
      rw [hsource] at h
      exact .inr h

theorem source_of_mem_slot (h : entry ∈ r.slot source) : entry.source = source := by
  cases source with
  | selfReported => exact r.self_source entry h
  | serverFetch => exact r.server_source entry h

/-- The slots that list an app are the sources of its contributions. -/
theorem slotLists_iff : r.SlotLists source identifier ↔
    ∃ c ∈ r.listing identifier, c.entry.source = source := by
  constructor
  · rintro ⟨entry, hentry, htime, app, happ, hid⟩
    have hsource := source_of_mem_slot hentry
    refine ⟨⟨entry, app⟩, mem_filter.mpr ⟨mem_contributions.mpr ⟨?_, htime, happ⟩,
      decide_eq_true hid⟩, hsource⟩
    exact mem_entries_iff.mpr (hsource ▸ hentry)
  · rintro ⟨c, hc, rfl⟩
    obtain ⟨hmem, hid⟩ := mem_filter.mp hc
    obtain ⟨hentry, htime, happ⟩ := mem_contributions.mp hmem
    exact ⟨c.entry, mem_entries_iff.mp hentry, htime, c.app, happ, of_decide_eq_true hid⟩

theorem platform_eq_of_key (hkey : c.key = c'.key)
    (hid : c.app.identifier = c'.app.identifier) : c.entry.platform = c'.entry.platform := by
  unfold AppContribution.key at hkey
  rw [hid, String.append_assoc, String.append_assoc] at hkey
  have hlist := congrArg String.toList hkey
  simp only [String.toList_append, append_left_inj] at hlist
  exact String.toList_injective hlist

theorem key_eq_of_platform (hplatform : c.entry.platform = c'.entry.platform)
    (hid : c.app.identifier = c'.app.identifier) : c.key = c'.key := by
  unfold AppContribution.key
  rw [hplatform, hid]

theorem stepAll_pushContribution (l : List AppContribution) :
    OrderedMap.stepAll pushContribution l = l.head?.map fun c => ⟨c.entry.platform, l⟩ := by
  induction l using reverseRecOn with
  | nil => rfl
  | append_singleton l c ih =>
    rw [OrderedMap.stepAll_concat, ih]
    cases l with
    | nil => rfl
    | cons c' l => rfl

theorem get_perDeviceApps : (perDeviceApps r).get k =
    (r.contributions.filter fun c => c.key = k).head?.map fun c =>
      ⟨c.entry.platform, r.contributions.filter fun c => c.key = k⟩ := by
  rw [perDeviceApps, OrderedMap.get_gather, stepAll_pushContribution]

theorem contributions_of_mem {e : String × Bucket} (h : e ∈ (perDeviceApps r).entries) :
    e.2.contributions = r.contributions.filter (fun c => c.key = e.1) ∧ e.2.contributions ≠ [] := by
  have hget := OrderedMap.get_eq_some_iff.mpr h
  rw [get_perDeviceApps, Option.map_eq_some_iff] at hget
  obtain ⟨c, hc, hbucket⟩ := hget
  have heq : r.contributions.filter (fun c => c.key = e.1) = e.2.contributions :=
    congrArg Bucket.contributions hbucket
  refine ⟨heq.symm, fun hnil => ?_⟩
  rw [heq, hnil] at hc
  cases hc

theorem exists_bucket (h : c ∈ r.contributions) :
    ∃ bucket, (c.key, bucket) ∈ (perDeviceApps r).entries := by
  have hne : (r.contributions.filter fun c' => c'.key = c.key) ≠ [] :=
    ne_nil_of_mem (mem_filter.mpr ⟨h, decide_eq_true rfl⟩)
  obtain ⟨c', l, hl⟩ := exists_cons_of_ne_nil hne
  refine ⟨⟨c'.entry.platform, r.contributions.filter fun c' => c'.key = c.key⟩,
    OrderedMap.get_eq_some_iff.mp ?_⟩
  rw [get_perDeviceApps, hl]
  rfl

end Contributions

/-! ## Summaries -/

section Summaries

variable {l : List DeviceApp} {summary : ReportedAppSummary} {version : String}

theorem mem_pushNew {α : Type} [DecidableEq α] {items : List α} {item x : α} :
    x ∈ pushNew items item ↔ x ∈ items ∨ x = item := by
  unfold pushNew
  split_ifs with h
  · exact ⟨.inl, fun hx => hx.elim id fun heq => heq ▸ h⟩
  · rw [mem_append, mem_singleton]

theorem noteContributions (contributions : List AppContribution) (summary : ReportedAppSummary) :
    (contributions.foldl noteContribution summary).identifier = summary.identifier ∧
      (contributions.foldl noteContribution summary).devices = summary.devices ∧
      ∀ version, version ∈ (contributions.foldl noteContribution summary).versions ↔
        version ∈ summary.versions ∨
          version ≠ "" ∧ ∃ c ∈ contributions, c.app.version = version := by
  induction contributions generalizing summary with
  | nil => exact ⟨rfl, rfl, fun version => by simp⟩
  | cons c contributions ih =>
    obtain ⟨hid, hdevices, hversions⟩ := ih (noteContribution summary c)
    refine ⟨hid, hdevices, fun version => (hversions version).trans ?_⟩
    have hnoted : version ∈ (noteContribution summary c).versions ↔
        version ∈ summary.versions ∨ version ≠ "" ∧ c.app.version = version := by
      unfold noteContribution
      dsimp only
      split_ifs with hempty
      · rw [hempty]
        exact ⟨.inl, fun h => h.elim id fun ⟨hne, heq⟩ => absurd heq.symm hne⟩
      · rw [mem_pushNew]
        exact or_congr_right ⟨fun h => ⟨h ▸ hempty, h.symm⟩, fun h => h.2.symm⟩
    rw [hnoted, exists_mem_cons_iff, and_or_left, or_assoc]

/-- What the apps of devices with one key make of their summary. -/
structure SummaryOf (l : List DeviceApp) (summary : ReportedAppSummary) : Prop where
  identifier : ∃ t ∈ l, t.identifier = summary.identifier
  devices : summary.devices = l.map DeviceApp.row
  versions : ∀ version, version ∈ summary.versions ↔
    version ≠ "" ∧ ∃ t ∈ l, ∃ c ∈ t.bucket.contributions, c.app.version = version

variable {summary' : ReportedAppSummary}

theorem summaryOf_add (t : DeviceApp) (h : SummaryOf l summary)
    (hadd : addDeviceApp (some summary) t = some summary') : SummaryOf (l ++ [t]) summary' := by
  obtain ⟨hid, hdevices, hversions⟩ := noteContributions t.bucket.contributions summary
  cases hadd
  refine ⟨?_, ?_, fun version => (hversions version).trans ?_⟩
  · obtain ⟨t', ht', heq⟩ := h.identifier
    exact ⟨t', mem_append_left _ ht', heq.trans hid.symm⟩
  · show (t.bucket.contributions.foldl noteContribution summary).devices ++ [t.row] = _
    rw [hdevices, h.devices, map_append]
    rfl
  · rw [h.versions version, ← and_or_left]
    refine and_congr_right fun _ => ?_
    simp only [mem_append, mem_singleton, or_and_right, exists_or, exists_eq_left]

theorem summaryOf_first (t : DeviceApp)
    (hadd : addDeviceApp none t = some summary') : SummaryOf [t] summary' := by
  obtain ⟨hid, hdevices, hversions⟩ := noteContributions t.bucket.contributions
    { identifier := t.identifier, name := t.identifier, platform := t.bucket.platform }
  cases hadd
  refine ⟨⟨t, mem_singleton_self _, hid.symm⟩, ?_, fun version =>
    (hversions version).trans ?_⟩
  · exact congrArg (· ++ [t.row]) hdevices
  · rw [mem_nil_iff, false_or]
    simp only [mem_singleton, exists_eq_left]

theorem summaryOf_stepAll (h : OrderedMap.stepAll addDeviceApp l = some summary) :
    SummaryOf l summary := by
  induction l using reverseRecOn generalizing summary with
  | nil => cases h
  | append_singleton l t ih =>
    rw [OrderedMap.stepAll_concat] at h
    cases hbefore : OrderedMap.stepAll addDeviceApp l with
    | none =>
      have hnil : l = [] := OrderedMap.eq_nil_of_stepAll (fun _ => rfl) hbefore
      rw [hbefore, Option.or_none] at h
      rw [hnil, nil_append]
      exact summaryOf_first t h
    | some before =>
      rw [hbefore] at h
      exact summaryOf_add t (ih hbefore) h

end Summaries

/-! ## Apps of devices -/

section DeviceApps

variable {store : InstalledAppsStore} {devices : List DeviceCore} {collation : Collation}
  {t : DeviceApp} {r : StoredRecord} {c : AppContribution} {k identifier : String}
  {summary : ReportedAppSummary} {e : String × ReportedAppSummary} {a : ReportedAppSummary}
  {β γ : Type}

theorem mem_deviceApps : t ∈ deviceApps store devices ↔
    ∃ r ∈ store.records, t.deviceId = r.deviceId ∧ t.deviceName = nameOf devices r.deviceId ∧
      (t.key, t.bucket) ∈ (perDeviceApps r).entries := by
  unfold deviceApps
  rw [mem_flatMap]
  refine exists_congr fun r => and_congr_right fun _ => ?_
  rw [mem_map]
  constructor
  · rintro ⟨e, he, rfl⟩
    exact ⟨rfl, rfl, he⟩
  · rintro ⟨hid, hname, he⟩
    obtain ⟨_, _, _, _⟩ := t
    cases hid
    cases hname
    exact ⟨_, he, rfl⟩

/-- The apps of devices with one key. -/
def withKey (store : InstalledAppsStore) (devices : List DeviceCore) (k : String) :
    List DeviceApp :=
  (deviceApps store devices).filter fun t => t.key = k

theorem summaryOf_entry (h : e ∈ (byIdentifier store devices).entries) :
    SummaryOf (withKey store devices e.1) e.2 := by
  have hget := OrderedMap.get_eq_some_iff.mpr h
  rw [byIdentifier, OrderedMap.get_gather] at hget
  exact summaryOf_stepAll hget

theorem exists_entry (h : t ∈ deviceApps store devices) :
    ∃ summary, (t.key, summary) ∈ (byIdentifier store devices).entries := by
  have hkey : t.key ∈ (byIdentifier store devices).keys :=
    (OrderedMap.mem_keys_gather fun _ => rfl).mpr ⟨t, h, rfl⟩
  obtain ⟨summary, hsummary⟩ := OrderedMap.mem_keys_iff.mp hkey
  exact ⟨summary, OrderedMap.get_eq_some_iff.mp hsummary⟩

theorem exists_contribution (h : t ∈ deviceApps store devices) : ∃ r ∈ store.records,
    t.deviceId = r.deviceId ∧
      t.bucket.contributions = r.contributions.filter (fun c => c.key = t.key) ∧
      ∃ c ∈ r.contributions, c.key = t.key ∧ c.app.identifier = t.identifier := by
  obtain ⟨r, hr, hid, -, hentry⟩ := mem_deviceApps.mp h
  obtain ⟨hcontributions, hne⟩ := contributions_of_mem hentry
  refine ⟨r, hr, hid, hcontributions, ?_⟩
  obtain ⟨c, l, hl⟩ := exists_cons_of_ne_nil hne
  have hmem : c ∈ t.bucket.contributions := hl ▸ mem_cons_self
  rw [hcontributions, mem_filter] at hmem
  refine ⟨c, hmem.1, of_decide_eq_true hmem.2, ?_⟩
  rw [DeviceApp.identifier, show t.bucket.contributions = c :: l from hl]
  rfl

/-- The app of a device with the key of one of its contributions. -/
theorem exists_deviceApp (devices : List DeviceCore) (hr : r ∈ store.records) (hc : c ∈ r.contributions) :
    ∃ t ∈ deviceApps store devices, t.deviceId = r.deviceId ∧ t.key = c.key ∧
      t.bucket.contributions = r.contributions.filter fun c' => c'.key = c.key := by
  obtain ⟨bucket, hbucket⟩ := exists_bucket hc
  exact ⟨⟨r.deviceId, nameOf devices r.deviceId, c.key, bucket⟩,
    mem_deviceApps.mpr ⟨r, hr, rfl, rfl, hbucket⟩, rfl, rfl, (contributions_of_mem hbucket).1⟩

theorem nodup_deviceApps : ((deviceApps store devices).map fun t => (t.deviceId, t.key)).Nodup := by
  unfold deviceApps
  rw [map_flatMap, nodup_flatMap]
  refine ⟨fun r _ => ?_, ?_⟩
  · rw [map_map]
    have hkeys : ((perDeviceApps r).entries.map Prod.fst).map (Prod.mk r.deviceId) =
        (perDeviceApps r).entries.map ((fun t : DeviceApp => (t.deviceId, t.key)) ∘
          fun e => ⟨r.deviceId, nameOf devices r.deviceId, e.1, e.2⟩) := map_map
    exact hkeys ▸ (perDeviceApps r).nodup.map fun _ _ h => (Prod.mk.inj h).2
  · refine (pairwise_map.mp store.nodup).imp fun {r r'} hne => ?_
    show List.Disjoint _ _
    intro pair hpair hpair'
    obtain ⟨t, ht, rfl⟩ := mem_map.mp hpair
    obtain ⟨t', ht', heq⟩ := mem_map.mp hpair'
    obtain ⟨e, -, rfl⟩ := mem_map.mp ht
    obtain ⟨e', -, rfl⟩ := mem_map.mp ht'
    exact hne (Prod.mk.inj heq).1.symm

theorem filter_eq_of_unique {α β : Type} {f : α → β} {p : α → Bool} {l : List α} {a : α}
    (hnodup : (l.map f).Nodup) (ha : a ∈ l) (hp : p a = true)
    (hf : ∀ b ∈ l, p b = true → f b = f a) : l.filter p = [a] := by
  induction l with
  | nil => exact absurd ha not_mem_nil
  | cons b l ih =>
    obtain ⟨hfresh, hrest⟩ := nodup_cons.mp hnodup
    rcases mem_cons.mp ha with rfl | hmem
    · rw [filter_cons_of_pos hp, filter_eq_nil_iff.mpr fun c hc hpc => hfresh ?_]
      exact hf c (mem_cons_of_mem _ hc) hpc ▸ mem_map_of_mem hc
    · have hneg : ¬p b = true := fun hpb =>
        hfresh (hf b mem_cons_self hpb ▸ mem_map_of_mem hmem)
      rw [filter_cons_of_neg hneg]
      exact ih hrest hmem fun c hc => hf c (mem_cons_of_mem _ hc)

theorem devices_entry (h : e ∈ (byIdentifier store devices).entries)
    (ht : t ∈ deviceApps store devices) (hkey : t.key = e.1) :
    e.2.devices.filter (fun d => d.deviceId = t.deviceId) = [t.row] := by
  have hunique : (withKey store devices e.1).filter (fun t' => t'.deviceId = t.deviceId) = [t] := by
    rw [withKey, filter_filter]
    refine filter_eq_of_unique nodup_deviceApps ht ?_ fun t' _ hp => ?_
    · rw [decide_eq_true hkey, decide_eq_true rfl, Bool.and_true]
    · rw [Bool.and_eq_true, decide_eq_true_iff, decide_eq_true_iff] at hp
      rw [hp.1, hp.2, hkey]
  rw [(summaryOf_entry h).devices, filter_map]
  show ((withKey store devices e.1).filter fun t' => t'.deviceId = t.deviceId).map _ = _
  rw [hunique, map_singleton]

theorem mem_devices_entry {row : ReportedAppDeviceRef}
    (h : e ∈ (byIdentifier store devices).entries) (hrow : row ∈ e.2.devices) :
    ∃ t ∈ deviceApps store devices, t.key = e.1 ∧ t.row = row := by
  rw [(summaryOf_entry h).devices] at hrow
  obtain ⟨t, ht, rfl⟩ := mem_map.mp hrow
  obtain ⟨hmem, hkey⟩ := mem_filter.mp ht
  exact ⟨t, hmem, of_decide_eq_true hkey, rfl⟩

theorem identifier_entry (hapart : store.KeysApart)
    (h : e ∈ (byIdentifier store devices).entries) (hr : r ∈ store.records)
    (hc : c ∈ r.contributions) (hkey : c.key = e.1) : e.2.identifier = c.app.identifier := by
  obtain ⟨t, ht, hid⟩ := (summaryOf_entry h).identifier
  obtain ⟨hmem, htkey⟩ := mem_filter.mp ht
  obtain ⟨r', hr', -, -, c', hc', hkey', hid'⟩ := exists_contribution hmem
  rw [← hid, ← hid']
  exact hapart r' hr' r hr c' hc' c hc (by rw [hkey', of_decide_eq_true htkey, hkey])

/-! ## The rows overall -/

/-- The rows of a device and an app in one summary. -/
def rowsIn (deviceId identifier : String) (a : ReportedAppSummary) : List ReportedAppDeviceRef :=
  if a.identifier = identifier then a.devices.filter fun d => d.deviceId = deviceId else []

theorem rowsOf_eq (apps : List ReportedAppSummary) (deviceId identifier : String) :
    rowsOf apps deviceId identifier = apps.flatMap (rowsIn deviceId identifier) := by
  induction apps with
  | nil => rfl
  | cons a apps ih =>
    rw [flatMap_cons, ← ih, rowsOf, rowsIn]
    simp only [filter_cons, decide_eq_true_eq]
    split_ifs
    · exact flatMap_cons
    · exact (nil_append _).symm

theorem rowsOf_overview (collation : Collation) (deviceId identifier : String) :
    (rowsOf (getReportedAppsOverview collation store devices).apps deviceId identifier).Perm
      ((byIdentifier store devices).entries.flatMap fun e => rowsIn deviceId identifier e.2) := by
  rw [rowsOf_eq]
  refine ((mergeSort_perm _ _).flatMap_right _).trans ?_
  rw [flatMap_map, OrderedMap.values, flatMap_map]
  refine Perm.flatMap_left _ fun e _ => ?_
  show (rowsIn deviceId identifier (e.2.finish collation)).Perm _
  unfold rowsIn
  by_cases h : e.2.identifier = identifier
  · rw [if_pos h, if_pos (show (e.2.finish collation).identifier = identifier from h)]
    exact (mergeSort_perm _ _).filter _
  · rw [if_neg h, if_neg (show ¬(e.2.finish collation).identifier = identifier from h)]

theorem flatMap_eq_of_single {l : List (String × β)} {f : String × β → List γ}
    {e : String × β} (hnodup : (l.map Prod.fst).Nodup) (he : e ∈ l)
    (hother : ∀ e' ∈ l, e'.1 ≠ e.1 → f e' = []) : l.flatMap f = f e := by
  induction l with
  | nil => exact absurd he not_mem_nil
  | cons e' l ih =>
    obtain ⟨hfresh, hrest⟩ := nodup_cons.mp hnodup
    rw [flatMap_cons]
    rcases mem_cons.mp he with rfl | hmem
    · have hnil : l.flatMap f = [] := flatMap_eq_nil_iff.mpr fun e' he' =>
        hother e' (mem_cons_of_mem _ he') fun heq => hfresh (heq ▸ mem_map_of_mem he')
      rw [hnil, append_nil]
    · have hne : e'.1 ≠ e.1 := fun heq => hfresh (heq ▸ mem_map_of_mem hmem)
      rw [hother e' mem_cons_self hne, nil_append]
      exact ih hrest hmem fun e'' he'' => hother e'' (mem_cons_of_mem _ he'')

theorem one_lt_length_flatMap {l : List β} {f : β → List γ} {e e' : β}
    (he : e ∈ l) (he' : e' ∈ l) (hne : e ≠ e') (hf : f e ≠ []) (hf' : f e' ≠ []) :
    1 < (l.flatMap f).length := by
  have hpos : ∀ {l : List β} {e : β}, e ∈ l → f e ≠ [] → 0 < (l.flatMap f).length := by
    intro l e he hf
    refine length_pos_of_ne_nil fun hnil => hf ?_
    exact flatMap_eq_nil_iff.mp hnil e he
  induction l with
  | nil => exact absurd he not_mem_nil
  | cons a l ih =>
    rw [flatMap_cons, length_append]
    rcases mem_cons.mp he with rfl | hmem
    · have hmem' := (mem_cons.mp he').resolve_left (Ne.symm hne)
      have hhead := length_pos_of_ne_nil hf
      have htail := hpos hmem' hf'
      omega
    · rcases mem_cons.mp he' with rfl | hmem'
      · have hhead := length_pos_of_ne_nil hf'
        have htail := hpos hmem hf
        omega
      · have htail := ih hmem hmem'
        omega

theorem filter_key_eq_listing (hapart : store.KeysApart) (hone : store.OnePlatform)
    (hr : r ∈ store.records) (hc : c ∈ r.contributions) :
    r.contributions.filter (fun c' => c'.key = c.key) = r.listing c.app.identifier := by
  refine filter_congr fun c' hc' => decide_eq_decide.mpr ⟨fun hkey => ?_, fun hid => ?_⟩
  · exact hapart r hr r hr c' hc' c hc hkey
  · exact key_eq_of_platform (hone r hr c' hc' c hc hid) hid

theorem eq_of_deviceId {r' : StoredRecord} (hr : r ∈ store.records) (hr' : r' ∈ store.records)
    (h : r.deviceId = r'.deviceId) : r = r' :=
  inj_on_of_nodup_map store.nodup hr hr' h

/-- **The rows of a device and an app**: where the keys are apart and the platforms agree, the one
of its bucket. -/
theorem rowsOf_overview_eq (hapart : store.KeysApart) (hone : store.OnePlatform)
    (hr : r ∈ store.records) (hc : c ∈ r.contributions) :
    rowsOf (getReportedAppsOverview collation store devices).apps r.deviceId c.app.identifier =
      [deviceRow r.deviceId (nameOf devices r.deviceId) (r.listing c.app.identifier)] := by
  obtain ⟨bucket, hbucket⟩ := exists_bucket hc
  have ht : (⟨r.deviceId, nameOf devices r.deviceId, c.key, bucket⟩ : DeviceApp) ∈
      deviceApps store devices := mem_deviceApps.mpr ⟨r, hr, rfl, rfl, hbucket⟩
  obtain ⟨summary, he⟩ := exists_entry ht
  have hid : summary.identifier = c.app.identifier := identifier_entry hapart he hr hc rfl
  refine perm_singleton.mp ((rowsOf_overview _ _ _).trans ?_)
  rw [flatMap_eq_of_single (byIdentifier store devices).nodup he fun e' he' hne => ?_]
  · rw [rowsIn, if_pos hid, devices_entry he ht rfl, DeviceApp.row,
      (contributions_of_mem hbucket).1, filter_key_eq_listing hapart hone hr hc]
  · unfold rowsIn
    split_ifs with hid'
    · refine filter_eq_nil_iff.mpr fun row hrow hdevice => hne ?_
      obtain ⟨t', ht', hkey', rfl⟩ := mem_devices_entry he' hrow
      obtain ⟨r', hr', hdevice', -, c', hc', hckey, -⟩ := exists_contribution ht'
      obtain rfl : r' = r := eq_of_deviceId hr' hr (hdevice'.symm.trans (of_decide_eq_true hdevice))
      have happ : c'.app.identifier = c.app.identifier :=
        (identifier_entry hapart he' hr' hc' (hckey.trans hkey')).symm.trans hid'
      rw [← hkey', ← hckey]
      exact key_eq_of_platform (hone _ hr' c' hc' c hc happ) happ
    · rfl

theorem primary_spec {l : List AppContribution} (h : l ≠ []) :
    ∃ c ∈ l, primary l = some c ∧ ∀ c' ∈ l, c'.time ≤ c.time := by
  have hsorted : (l.mergeSort fun a b => b.time ≤ a.time).Pairwise
      fun a b => decide (b.time ≤ a.time) = true := by
    refine pairwise_mergeSort (fun a b c hab hbc => ?_) (fun a b => ?_) l
    · exact decide_eq_true ((of_decide_eq_true hbc).trans (of_decide_eq_true hab))
    · rw [Bool.or_eq_true, decide_eq_true_iff, decide_eq_true_iff]
      exact le_total _ _
  have hne : (l.mergeSort fun a b => b.time ≤ a.time) ≠ [] := fun hnil => by
    rw [← length_eq_zero_iff, length_mergeSort, length_eq_zero_iff] at hnil
    exact h hnil
  obtain ⟨c, rest, hl⟩ := exists_cons_of_ne_nil hne
  have hmem : ∀ {c'}, c' ∈ l ↔ c' ∈ c :: rest := fun {c'} => hl ▸ mem_mergeSort.symm
  refine ⟨c, hmem.mpr mem_cons_self, ?_, fun c' hc' => ?_⟩
  · rw [primary, hl, head?_cons]
  · rw [hl] at hsorted
    rcases mem_cons.mp (hmem.mp hc') with rfl | hrest
    · exact le_refl _
    · exact of_decide_eq_true ((pairwise_cons.mp hsorted).1 c' hrest)

theorem mem_apps :
    a ∈ (getReportedAppsOverview collation store devices).apps ↔
      ∃ e ∈ (byIdentifier store devices).entries, e.2.finish collation = a := by
  unfold getReportedAppsOverview OrderedMap.values
  rw [mem_mergeSort, map_map]
  exact mem_map

theorem overview_versions (hapart : store.KeysApart) (hr : r ∈ store.records)
    (hc : c ∈ r.contributions) : ∃ a ∈ (getReportedAppsOverview collation store devices).apps,
      a.identifier = c.app.identifier ∧ (∃ row ∈ a.devices, row.deviceId = r.deviceId) ∧
        c.app.version ∈ a.versions := by
  obtain ⟨t, ht, hdevice, hkey, hcontributions⟩ := exists_deviceApp devices hr hc
  obtain ⟨summary, he⟩ := exists_entry ht
  have hsummary := summaryOf_entry he
  have hmem : t ∈ withKey store devices t.key :=
    mem_filter.mpr ⟨ht, decide_eq_true rfl⟩
  refine ⟨summary.finish collation, mem_apps.mpr ⟨_, he, rfl⟩, ?_, ⟨t.row, ?_, hdevice⟩, ?_⟩
  · exact identifier_entry hapart he hr hc hkey.symm
  · refine mem_mergeSort.mpr ?_
    rw [hsummary.devices]
    exact mem_map_of_mem hmem
  · refine mem_mergeSort.mpr ((hsummary.versions _).mpr ⟨?_, t, hmem, c, ?_, rfl⟩)
    · obtain ⟨-, -, happ⟩ := mem_contributions.mp hc
      exact c.entry.versioned _ happ
    · rw [hcontributions]
      exact mem_filter.mpr ⟨hc, decide_eq_true rfl⟩

theorem overview_counts
    (h : a ∈ (getReportedAppsOverview collation store devices).apps) :
    a.deviceCount = (a.devices.map ReportedAppDeviceRef.deviceId).dedup.length := by
  obtain ⟨e, he, rfl⟩ := mem_apps.mp h
  have hpairs : ((withKey store devices e.1).map fun t => (t.deviceId, t.key)).Nodup :=
    nodup_deviceApps.sublist (filter_sublist.map _)
  have hids : ((withKey store devices e.1).map DeviceApp.deviceId).Nodup := by
    have hsame : (withKey store devices e.1).map (fun t => (t.deviceId, t.key)) =
        ((withKey store devices e.1).map DeviceApp.deviceId).map fun id => (id, e.1) := by
      rw [map_map]
      exact map_congr_left fun t ht =>
        congrArg (Prod.mk t.deviceId) (of_decide_eq_true (mem_filter.mp ht).2)
    rw [hsame] at hpairs
    exact hpairs.of_map _
  have hdevices : (e.2.devices.map ReportedAppDeviceRef.deviceId).Nodup := by
    rw [(summaryOf_entry he).devices, map_map]
    exact hids
  have hsorted : ((e.2.finish collation).devices.map ReportedAppDeviceRef.deviceId).Nodup :=
    ((mergeSort_perm _ _).map _).nodup_iff.mpr hdevices
  rw [dedup_eq_self.mpr hsorted, length_map]
  exact (length_mergeSort _).symm

/-- **One row** each, where the keys are apart and the platforms agree. -/
theorem faithful_of_onePlatform (hapart : store.KeysApart) (hone : store.OnePlatform) :
    FaithfulOverview store (getReportedAppsOverview collation store devices).apps := by
  refine ⟨fun r hr identifier hlists => ?_, fun r hr c hc => overview_versions hapart hr hc,
    fun a ha => overview_counts ha⟩
  obtain ⟨source, hlists⟩ := hlists
  obtain ⟨c, hc, -⟩ := slotLists_iff.mp hlists
  obtain ⟨hmem, hid⟩ := mem_filter.mp hc
  obtain rfl : c.app.identifier = identifier := of_decide_eq_true hid
  refine ⟨_, rowsOf_overview_eq hapart hone hr hmem, fun source => ?_, ?_⟩
  · rw [slotLists_iff]
    show source ∈ ((r.listing c.app.identifier).map fun c => c.entry.source).eraseDups ↔ _
    rw [mem_eraseDups, mem_map]
  · obtain ⟨latest, hlatest, hprimary, hmax⟩ := primary_spec (ne_nil_of_mem hc)
    refine ⟨latest, hlatest, ?_, hmax⟩
    show (primary (r.listing c.app.identifier)).map _ = _
    rw [hprimary]
    rfl

theorem onePlatform_of_faithful (hapart : store.KeysApart)
    (h : FaithfulOverview store (getReportedAppsOverview collation store devices).apps) :
    store.OnePlatform := by
  intro r hr c hc c' hc' hid
  by_contra hplatform
  have hkeys : c.key ≠ c'.key := fun hkey => hplatform (platform_eq_of_key hkey hid)
  have hlists : r.SlotLists c.entry.source c.app.identifier :=
    slotLists_iff.mpr ⟨c, mem_filter.mpr ⟨hc, decide_eq_true rfl⟩, rfl⟩
  obtain ⟨row, hrow, -⟩ := h.rows r hr _ ⟨_, hlists⟩
  have hsummary : ∀ c' ∈ r.contributions, c'.app.identifier = c.app.identifier →
      ∃ e ∈ (byIdentifier store devices).entries, e.1 = c'.key ∧
        rowsIn r.deviceId c.app.identifier e.2 ≠ [] := by
    intro c' hc' hid'
    obtain ⟨t, ht, hdevice, hkey, -⟩ := exists_deviceApp devices hr hc'
    obtain ⟨summary, he⟩ := exists_entry ht
    refine ⟨_, he, hkey, ?_⟩
    rw [rowsIn, if_pos ((identifier_entry hapart he hr hc' hkey.symm).trans hid'), ← hdevice,
      devices_entry he ht rfl]
    exact cons_ne_nil _ _
  obtain ⟨e, he, hkey, hne⟩ := hsummary c hc rfl
  obtain ⟨e', he', hkey', hne'⟩ := hsummary c' hc' hid.symm
  have hlt := one_lt_length_flatMap
    (f := fun e : String × ReportedAppSummary => rowsIn r.deviceId c.app.identifier e.2)
    he he' (fun heq => hkeys (by rw [← hkey, ← hkey', heq])) hne hne'
  rw [← (rowsOf_overview collation r.deviceId c.app.identifier).length_eq, hrow] at hlt
  exact absurd hlt (Nat.lt_irrefl 1)

end DeviceApps

/-- **Exactly when**: with keys apart, every device and app has its one row if and only if the slots
of a device name one platform for an app that both list. -/
theorem overview_faithful_iff (collation : Collation) (store : InstalledAppsStore)
    (devices : List DeviceCore) (hapart : store.KeysApart) :
    FaithfulOverview store (getReportedAppsOverview collation store devices).apps ↔
      store.OnePlatform :=
  ⟨onePlatform_of_faithful hapart, faithful_of_onePlatform hapart⟩

/-! ## A Mac -/

/-- An entry with the one app. -/
def chatEntry (platform : String) (source : AppsSource) (version : String)
    (h : version ≠ "") : StoredEntry where
  platform := platform
  fetchedAt := some 1
  error := none
  source := source
  apps := [{ identifier := "chat", version := version }]
  versioned := fun _ happ => List.mem_singleton.mp happ ▸ h

/-- The device reports itself, and was fetched before Macs had a platform of their own. -/
def macRecord : StoredRecord where
  deviceId := "d1"
  selfReported := some (chatEntry "macos" .selfReported "2" (by decide))
  serverFetch := some (chatEntry "apple" .serverFetch "1" (by decide))
  self_source := fun _ h => Option.some.inj h ▸ rfl
  server_source := fun _ h => Option.some.inj h ▸ rfl

/-- The store with this device. -/
def macStore : InstalledAppsStore where
  records := [macRecord]
  nodup := List.nodup_singleton _

/-- An order in which texts come as they are. -/
def anyOrder : Collation :=
  ⟨fun _ _ => true, fun _ _ => true⟩

theorem keysApart_macStore : macStore.KeysApart := by
  have hchat : ∀ r ∈ macStore.records, ∀ c ∈ r.contributions, c.app.identifier = "chat" := by
    decide
  intro r hr r' hr' c hc c' hc' _
  rw [hchat r hr c hc, hchat r' hr' c' hc']

theorem overview_faithful_iff_mac :
    FaithfulOverview macStore (getReportedAppsOverview anyOrder macStore []).apps ↔
      macStore.OnePlatform :=
  overview_faithful_iff anyOrder macStore [] keysApart_macStore

/-- The app has two rows for the one device. -/
theorem overview_twice :
    ¬FaithfulOverview macStore (getReportedAppsOverview anyOrder macStore []).apps := by
  intro h
  have hone := onePlatform_of_faithful keysApart_macStore h
  have hplatform : "macos" = "apple" := hone macRecord (mem_singleton_self _)
    ⟨chatEntry "macos" .selfReported "2" (by decide), { identifier := "chat", version := "2" }⟩
    (mem_contributions.mpr ⟨mem_cons_self, rfl, mem_singleton_self _⟩)
    ⟨chatEntry "apple" .serverFetch "1" (by decide), { identifier := "chat", version := "1" }⟩
    (mem_contributions.mpr ⟨mem_cons_of_mem _ mem_cons_self, rfl,
      mem_singleton_self _⟩) rfl
  exact absurd hplatform (by decide)

end AppliverySoar.AppLists
