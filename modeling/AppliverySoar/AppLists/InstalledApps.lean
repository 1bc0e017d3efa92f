import AppliverySoar.Async.Expand
import AppliverySoar.DeviceData.Report

/-!
# The installed apps of a device

`upsertInstalledAppsSlot` and `fetchAndStoreInstalledApps` of
installedApps.service.ts, and `reportDeviceApps` and `reconcilePendingAppReports` of
deviceData.service.ts, each query a call of its own. `reportDeviceApps` is the one of
`DeviceData.Report`, with the slot written by its two queries.

Left out: log lines, the message of an audit event, what `extractItems` and
`fetchWindowsDeviceApps` make of a response, and the columns of a row that nothing
here reads.
-/

namespace AppliverySoar.AppLists

open Async Workflows Compliance Js
open DeviceData (DataCall dataSig DeviceAppReportPayload Collation appsEntry)

/-! ## Entries -/

/-- An app of an entry. -/
structure InstalledApp where
  identifier : String
  name : Option String := none
  version : String
  updateAvailable : Option Bool := none
  productCode : Option String := none
  enforcedByPolicy : Option Bool := none
  origin : Option String := none
  installLocation : Option String := none
  sha256 : Option String := none
  deriving DecidableEq

/-- An element of `pendingApps`. -/
structure PendingApp where
  identifier : Option String
  name : Option String
  installedVersion : Option String
  build : Option String
  isBetaApp : Bool
  deriving DecidableEq

structure AppleAppUpdates where
  pendingCount : ℕ
  totalApps : ℕ
  pendingApps : List PendingApp
  deriving DecidableEq

/-- Where an entry comes from. -/
inductive AppsSource
  | selfReported
  | serverFetch
  deriving DecidableEq

/-- `InstalledAppsEntry`, with the keys that a self-report adds. -/
structure InstalledAppsEntry where
  identifiers : List String
  apps : List InstalledApp
  platform : String
  fetchedAt : ℕ
  error : Option String := none
  source : AppsSource
  appleAppUpdates : Option AppleAppUpdates := none
  agentVersion : Option String := none
  clientReportedAt : Option String := none
  deriving DecidableEq

/-- The entry of a self-report. -/
def ofReport (entry : DeviceData.InstalledAppsEntry) : InstalledAppsEntry where
  identifiers := entry.identifiers
  apps := entry.apps.map fun a =>
    { identifier := a.identifier, name := a.name, version := a.version, origin := a.origin,
      installLocation := a.installLocation, sha256 := a.sha256 }
  platform := entry.platform
  fetchedAt := entry.fetchedAt
  source := .selfReported
  agentVersion := entry.agentVersion
  clientReportedAt := entry.clientReportedAt

/-- The slots of a record. -/
inductive Slot
  | selfReported
  | serverFetch
  deriving DecidableEq

/-- The slot that is left alone. -/
def Slot.other : Slot → Slot
  | .selfReported => .serverFetch
  | .serverFetch => .selfReported

structure InstalledAppsRecord where
  selfReported : Option InstalledAppsEntry := none
  serverFetch : Option InstalledAppsEntry := none
  deriving DecidableEq

/-- `record[slot]`. -/
def InstalledAppsRecord.get (record : InstalledAppsRecord) : Slot → Option InstalledAppsEntry
  | .selfReported => record.selfReported
  | .serverFetch => record.serverFetch

/-- `record[slot] = entry`. -/
def InstalledAppsRecord.set (record : InstalledAppsRecord) (slot : Slot)
    (entry : InstalledAppsEntry) : InstalledAppsRecord :=
  match slot with
  | .selfReported => { record with selfReported := some entry }
  | .serverFetch => { record with serverFetch := some entry }

@[simp] theorem get_set (record : InstalledAppsRecord) (slot : Slot) (entry : InstalledAppsEntry) :
    (record.set slot entry).get slot = some entry := by
  cases slot <;> rfl

@[simp] theorem get_set_other (record : InstalledAppsRecord) (slot : Slot)
    (entry : InstalledAppsEntry) : (record.set slot entry).get slot.other = record.get slot.other := by
  cases slot <;> rfl

theorem Slot.eq_or_eq_other (slot slot' : Slot) : slot' = slot ∨ slot' = slot.other := by
  cases slot <;> cases slot' <;> simp [Slot.other]

/-- The `apps` column of a row: a record, an entry of the time before there were
slots, or anything else. -/
inductive StoredApps
  | record (record : InstalledAppsRecord)
  | entry (entry : InstalledAppsEntry)
  | other
  deriving DecidableEq

def toRecord : Option StoredApps → InstalledAppsRecord
  | some (.record record) => record
  | some (.entry entry) =>
    match entry.source with
    | .selfReported => { selfReported := some entry }
    | .serverFetch => { serverFetch := some entry }
  | some .other | none => {}

/-! ## What the service is asked for -/

/-- What is read of an item of Applivery's list of applications. -/
structure AppItem where
  Identifier : Option String := none
  identifier : Option String := none
  ShortVersion : Option String := none
  Version : Option String := none
  Name : Option String := none
  HasUpdateAvailable : Bool := false
  BetaApp : Bool := false
  packageName : Option String := none
  state : Option String := none
  versionName : Option String := none
  displayName : Option String := none
  deriving DecidableEq

/-- The response of the list: `none` for an item that is no object. -/
structure AppsResponse where
  status : ℕ
  items : List (Option AppItem)
  deriving DecidableEq

structure WindowsMsiApp where
  productCode : String
  name : String
  version : String
  enforcedByPolicy : Bool
  deriving DecidableEq

structure WindowsStoreApp where
  name : String
  version : String
  deriving DecidableEq

/-- What `fetchWindowsDeviceApps` returns. -/
structure WindowsApps where
  msiApps : List WindowsMsiApp
  storeApps : List WindowsStoreApp
  error : Option String
  deriving DecidableEq

/-- What is read of a device of the fleet. -/
structure NormalizedDevice where
  id : String
  platform : String
  serialNumber : String
  deriving DecidableEq

/-- A `PendingAppReport` row: `deviceId` is a serial number. -/
structure PendingRow where
  deviceId : String
  payload : InstalledAppsEntry
  deriving DecidableEq

/-- The calls. `data` is what `reportDeviceApps` asks for apart from the tables. -/
inductive AppsCall
  | data (c : DataCall)
  | getApplications (url : String)
  | fetchWindowsDeviceApps (deviceId : String)
  | findInventory (workspaceSlug deviceId : String)
  | upsertInventory (workspaceSlug deviceId : String) (apps : InstalledAppsRecord)
      (reportedAt : ℕ)
  | upsertPendingAppReport (workspaceSlug deviceId : String) (payload : InstalledAppsEntry)
  | deletePendingAppReports (workspaceSlug deviceId : String)
  | findPendingAppReports (workspaceSlug : String)
  | deletePendingAppReport (workspaceSlug deviceId : String)

/-- The answers. -/
@[reducible] def AppsCall.Answer : AppsCall → Type
  | .data c => DataCall.Answer c
  | .getApplications _ => AppsResponse
  | .fetchWindowsDeviceApps _ => WindowsApps
  | .findInventory .. => Option StoredApps
  | .upsertInventory .. => Unit
  | .upsertPendingAppReport .. => Unit
  | .deletePendingAppReports .. => Unit
  | .findPendingAppReports _ => List PendingRow
  | .deletePendingAppReport .. => Unit

/-- The signature of the calls. -/
@[reducible] def appsSig : Sig where
  Call := AppsCall
  Ret := AppsCall.Answer

/-- An `async` function of the modules. -/
abbrev AppsProg (α : Type) : Type := Prog appsSig ServiceError α

/-- A call and its answer. -/
abbrev AppsEvent : Type := Event appsSig ServiceError

/-- `await` of one of the calls. -/
def ask (c : AppsCall) : AppsProg (AppsCall.Answer c) :=
  Prog.call (S := appsSig) c

/-- What does not change from call to call. -/
structure AppsEnv where
  runtime : Runtime
  collation : Collation
  orgBase : String
  errorText : ServiceError → String

/-! ## One slot -/

def upsertInstalledAppsSlot (workspaceSlug deviceId : String) (slot : Slot)
    (entry : InstalledAppsEntry) (reportedAt : ℕ) : AppsProg Unit := do
  let existing ← ask (.findInventory workspaceSlug deviceId)
  ask (.upsertInventory workspaceSlug deviceId ((toRecord existing).set slot entry) reportedAt)

/-! ## Self-reports -/

/-- What carries out a call of `DeviceData.Report`. -/
def carryOut : (c : DataCall) → AppsProg (DataCall.Answer c)
  | .upsertInstalledAppsSlot workspaceSlug deviceId entry reportedAt =>
    upsertInstalledAppsSlot workspaceSlug deviceId .selfReported (ofReport entry) reportedAt
  | .upsertPendingAppReport workspaceSlug deviceId entry =>
    ask (.upsertPendingAppReport workspaceSlug deviceId (ofReport entry))
  | .deletePendingAppReports workspaceSlug deviceId =>
    ask (.deletePendingAppReports workspaceSlug deviceId)
  | c => ask (.data c)

def reportDeviceApps (env : AppsEnv) (workspaceSlug : String) (payload : DeviceAppReportPayload) :
    AppsProg (ℕ × Bool) :=
  (DeviceData.reportDeviceApps env.runtime env.collation workspaceSlug payload).expand carryOut

/-- `bySerial.get(serialNumber)`: of two devices with it the later one. -/
def bySerial (devices : List NormalizedDevice) (serialNumber : String) : Option NormalizedDevice :=
  (devices.filter fun d => d.serialNumber ≠ "").reverse.find? fun d => d.serialNumber = serialNumber

/-- A round of the loop over the buffered reports. -/
def reconcileRow (workspaceSlug : String) (devices : List NormalizedDevice) (nowIso reconciled : ℕ)
    (row : PendingRow) : AppsProg ℕ :=
  match bySerial devices row.deviceId with
  | none => pure reconciled
  | some device => do
    upsertInstalledAppsSlot workspaceSlug device.id .selfReported row.payload nowIso
    ask (.deletePendingAppReport workspaceSlug row.deviceId)
    return reconciled + 1

def reconcilePendingAppReports (workspaceSlug : String) (devices : List NormalizedDevice) :
    AppsProg ℕ := do
  let pending ← ask (.findPendingAppReports workspaceSlug)
  if pending = [] then return 0
  else do
    let nowIso ← ask (.data .newDate)
    let reconciled ← pending.foldlM (reconcileRow workspaceSlug devices nowIso) 0
    if 0 < reconciled then do
      ask (.data (.invalidateDevicesCache workspaceSlug))
      ask (.data (.recordAuditEvent workspaceSlug "device_apps_reconciled" "bulk"
        (toString reconciled ++ " device(s)")))
      return reconciled
    else return reconciled

/-! ## Fetches -/

/-- What a fetch has collected. -/
structure Fetched where
  identifiers : List String := []
  versionedApps : List InstalledApp := []
  applePendingApps : List PendingApp := []
  appleTotalApps : ℕ := 0
  error : Option String := none
  deriving DecidableEq

/-- `identifiers.add(identifier)`. -/
def addIdentifier (identifiers : List String) (identifier : String) : List String :=
  if identifier ∈ identifiers then identifiers else identifiers ++ [identifier]

/-- An app that an MSI package has installed. -/
def addMsiApp (env : AppsEnv) (fetched : Fetched) (app : WindowsMsiApp) : Fetched :=
  let identifier := env.runtime.toLowerCase app.name
  { fetched with
    versionedApps := fetched.versionedApps ++ [{
      identifier, name := some app.name, version := app.version,
      productCode := some app.productCode, enforcedByPolicy := some app.enforcedByPolicy,
      origin := some "msi" }]
    identifiers := addIdentifier fetched.identifiers identifier }

/-- An app of the store, unless there is one of its name. -/
def addStoreApp (env : AppsEnv) (fetched : Fetched) (app : WindowsStoreApp) : Fetched :=
  let identifier := env.runtime.toLowerCase app.name
  if identifier ∈ fetched.identifiers then fetched
  else
    { fetched with
      versionedApps := fetched.versionedApps ++ [{
        identifier, name := some app.name, version := app.version, origin := some "store" }]
      identifiers := addIdentifier fetched.identifiers identifier }

/-- `if (ident) identifiers.add(…)`. -/
def noteIdentifier (env : AppsEnv) (ident : Option String) (fetched : Fetched) : Fetched :=
  match truthy ident with
  | none => fetched
  | some ident =>
    { fetched with
      identifiers := addIdentifier fetched.identifiers (env.runtime.toLowerCase ident) }

/-- `if (ident && version) versionedApps.push(…)`. -/
def pushVersioned (env : AppsEnv) (ident version name : Option String)
    (updateAvailable : Option Bool) (fetched : Fetched) : Fetched :=
  match truthy ident, truthy version with
  | some ident, some version =>
    { fetched with
      versionedApps := fetched.versionedApps ++ [{
        identifier := env.runtime.toLowerCase ident, name, version, updateAvailable }] }
  | _, _ => fetched

/-- An item of a device of Apple. -/
def addAppleItem (env : AppsEnv) (fetched : Fetched) (item : AppItem) : Fetched :=
  let ident := item.Identifier <|> item.identifier
  let version := item.ShortVersion <|> item.Version
  let counted := { fetched with appleTotalApps := fetched.appleTotalApps + 1 }
  let noted :=
    if item.HasUpdateAvailable then
      { counted with applePendingApps := counted.applePendingApps ++ [{
          identifier := ident, name := item.Name, installedVersion := version,
          build := item.Version, isBetaApp := item.BetaApp }] }
    else counted
  noteIdentifier env ident
    (pushVersioned env ident version item.Name (some item.HasUpdateAvailable) noted)

/-- An item of a device of Android or AOSP. -/
def addAndroidItem (env : AppsEnv) (fetched : Fetched) (item : AppItem) : Fetched :=
  let pushed :=
    if item.state ≠ some "REMOVED" then
      pushVersioned env item.packageName item.versionName item.displayName none fetched
    else fetched
  noteIdentifier env item.packageName pushed

/-- An item of the list. -/
def addItem (env : AppsEnv) (platformPath : String) (fetched : Fetched) (item : Option AppItem) :
    Fetched :=
  match item with
  | none => fetched
  | some item =>
    if platformPath = "apple" then addAppleItem env fetched item
    else addAndroidItem env fetched item

/-- What the apps of Windows are collected to. -/
def collectWindows (env : AppsEnv) (apps : WindowsApps) : Fetched :=
  apps.storeApps.foldl (addStoreApp env)
    (apps.msiApps.foldl (addMsiApp env) { error := apps.error })

/-- What a response, or what was thrown instead of it, is collected to. -/
def collectItems (env : AppsEnv) (platformPath : String) :
    Except ServiceError AppsResponse → Fetched
  | .ok res =>
    if res.status < 300 then res.items.foldl (addItem env platformPath) {}
    else { error := some ("Applivery returned " ++ toString res.status) }
  | .error e => { error := some (env.errorText e) }

/-- The calls to Applivery. -/
def fetchApps (env : AppsEnv) (platformPath deviceId : String) : AppsProg Fetched :=
  if platformPath = "windows" then do
    let apps ← ask (.fetchWindowsDeviceApps deviceId)
    return collectWindows env apps
  else do
    let res ← (ask (.getApplications (env.orgBase ++ "/mdm/" ++ platformPath ++
      "/enterprise/devices/" ++ deviceId ++ "/applications"))).attempt
    return collectItems env platformPath res

/-- `fetchedAt` of the entry: what was there, if the fetch failed. -/
def fetchedAtOf (fetched : Fetched) (existing : Option InstalledAppsEntry) : AppsProg ℕ :=
  match fetched.error, existing with
  | some _, some existing => pure existing.fetchedAt
  | _, _ => ask (.data .newDate)

/-- The entry of a fetch: it keeps what was there, if the fetch failed. -/
def serverFetchEntry (env : AppsEnv) (platform platformPath : String) (fetched : Fetched)
    (existing : Option InstalledAppsEntry) (fetchedAt : ℕ) : InstalledAppsEntry where
  identifiers :=
    if fetched.error = none then fetched.identifiers.mergeSort env.collation.unitsLe
    else existing.elim [] InstalledAppsEntry.identifiers
  apps :=
    if fetched.error = none then
      fetched.versionedApps.mergeSort fun a b => env.collation.localeLe a.identifier b.identifier
    else existing.elim [] InstalledAppsEntry.apps
  platform := platform
  fetchedAt := fetchedAt
  error := fetched.error
  source := .serverFetch
  appleAppUpdates :=
    if platformPath = "apple" then
      if fetched.error = none then
        some { pendingCount := fetched.applePendingApps.length
               totalApps := fetched.appleTotalApps
               pendingApps := fetched.applePendingApps.mergeSort fun a b =>
                 env.collation.localeLe (a.name.getD "") (b.name.getD "") }
      else existing.bind InstalledAppsEntry.appleAppUpdates
    else none

/-- `fetchAndStoreInstalledApps`: the identifiers. -/
def fetchAndStoreInstalledApps (env : AppsEnv) (device : NormalizedDevice)
    (workspaceSlug : String) : AppsProg (List String) :=
  match platformPathSegment device.platform with
  | none => pure []
  | some platformPath =>
    if device.id = "" ∨ platformPath ∉ ["apple", "android", "aosp", "windows"] then pure []
    else do
      let fetched ← fetchApps env platformPath device.id
      let existing ← ask (.findInventory workspaceSlug device.id)
      let existingEntry := (toRecord existing).serverFetch
      let fetchedAt ← fetchedAtOf fetched existingEntry
      let reportedAt ← ask (.data .newDate)
      upsertInstalledAppsSlot workspaceSlug device.id .serverFetch
        (serverFetchEntry env device.platform platformPath fetched existingEntry fetchedAt)
        reportedAt
      return fetched.identifiers

end AppliverySoar.AppLists
