import AppliverySoar.Async.Embed
import AppliverySoar.DeviceData.PlayIntegrity
import AppliverySoar.Mtls.Certificates

/-!
# What a device reports of itself

The routes `report`, `report-apps` and `play-integrity/nonce` of
deviceData.controller.ts, with `verifyDeviceIdentity`, `reportDeviceData` and
`reportDeviceApps` of deviceData.service.ts and `normalizePushedAttributes` of
deviceData.schemas.ts. The calls of `assertMtlsIdentity` and of the Play
Integrity service are part of the calls here. A body is what the schema made of
it, `none` where it throws.

Left out: log lines, the messages of audit events and of the re-evaluation.
-/

namespace AppliverySoar.DeviceData

open Async Workflows Compliance Js
open Mtls (MtlsCall mtlsSig IdentityHeaders assertMtlsIdentity workspaceOf)

/-! ## Payloads and records -/

structure DeviceReportPayload where
  platform : String
  serialNumber : String
  attributes : List (String × Value) := []
  customCheckResults : Option Value := none
  playIntegrityToken : Option String := none
  agentVersion : Option String := none
  reportedAt : Option String := none

/-- An element of `DeviceAppReportPayload.apps`. -/
structure ReportedApp where
  identifier : Option String := none
  name : Option String := none
  version : Option String := none
  origin : Option String := none
  installLocation : Option String := none
  sha256 : Option String := none
  deriving DecidableEq

structure DeviceAppReportPayload where
  platform : String
  serialNumber : String
  apps : List ReportedApp := []
  agentVersion : Option String := none
  reportedAt : Option String := none
  deriving DecidableEq

/-- The payload of a `DevicePushData` row of the kind `attributes`. -/
structure PushRecord where
  platform : String
  attributes : List (String × Value)
  customCheckResults : Option Value
  agentVersion : Option String
  clientReportedAt : Option String
  reportCount : ℕ

/-- An app of an `InstalledAppsEntry`. -/
structure InstalledApp where
  identifier : String
  name : Option String
  version : String
  origin : Option String
  installLocation : Option String
  sha256 : Option String
  deriving DecidableEq

/-- `InstalledAppsEntry`, as a self-report makes it. -/
structure InstalledAppsEntry where
  identifiers : List String
  apps : List InstalledApp
  platform : String
  fetchedAt : ℕ
  source : String
  agentVersion : Option String
  clientReportedAt : Option String
  deriving DecidableEq

/-- An entry of the serial index. -/
structure DeviceEntry where
  id : String
  displayName : Option String
  deriving DecidableEq

/-- What the routes read of a request. -/
structure DeviceHeaders where
  identity : IdentityHeaders
  deviceReportSecret : Option String
  deriving DecidableEq

/-! ## The calls -/

/-- What the functions await or read from the process. `serialIndex` is
`cachedDeviceBySerial`, `newDate` is `new Date()`. -/
inductive DataCall
  | identity (c : MtlsCall)
  | nonce (c : NonceCall)
  | getMtlsEnforcementEnabled (workspaceSlug : String)
  | findDeviceReportSecret (workspaceSlug : String)
  | newDate
  | findDevicePushData (workspaceSlug deviceId : String)
  | upsertDevicePushData (workspaceSlug deviceId : String) (record : PushRecord) (reportedAt : ℕ)
  | serialIndex (workspaceSlug serialNumber : String)
  | upsertInstalledAppsSlot (workspaceSlug deviceId : String) (entry : InstalledAppsEntry)
      (reportedAt : ℕ)
  | deletePendingAppReports (workspaceSlug deviceId : String)
  | upsertPendingAppReport (workspaceSlug deviceId : String) (entry : InstalledAppsEntry)
  | recordAuditEvent (workspaceSlug action targetId targetName : String)
  | invalidateDevicesCache (workspaceSlug : String)
  | triggerEventDrivenReEvaluation (workspaceSlug serialNumber : String)

/-- The answers: the decrypted secret for `findDeviceReportSecret`. -/
@[reducible] def DataCall.Answer : DataCall → Type
  | .identity c => MtlsCall.Answer c
  | .nonce c => NonceCall.Answer c
  | .getMtlsEnforcementEnabled _ => Bool
  | .findDeviceReportSecret _ => Option String
  | .newDate => ℕ
  | .findDevicePushData .. => Option PushRecord
  | .upsertDevicePushData .. => Unit
  | .serialIndex .. => Option DeviceEntry
  | .upsertInstalledAppsSlot .. => Unit
  | .deletePendingAppReports .. => Unit
  | .upsertPendingAppReport .. => Unit
  | .recordAuditEvent .. => Unit
  | .invalidateDevicesCache _ => Unit
  | .triggerEventDrivenReEvaluation .. => Unit

/-- The signature of the calls. -/
@[reducible] def dataSig : Sig where
  Call := DataCall
  Ret := DataCall.Answer

/-- An `async` function of the module. -/
abbrev DeviceData (α : Type) : Type := Prog dataSig ServiceError α

/-- A call and its answer. -/
abbrev DataEvent : Type := Event dataSig ServiceError

/-- `await` of one of the calls. -/
def ask (c : DataCall) : DeviceData (DataCall.Answer c) :=
  Prog.call (S := dataSig) c

/-- `throw new HttpError(status, detail)`. -/
def fail {α : Type} (status : ℕ) (detail : String) : DeviceData α :=
  Prog.ret (.error (.http ⟨status, detail⟩))

/-- The calls of `assertMtlsIdentity`. -/
def identityCalls : SigHom mtlsSig dataSig :=
  ⟨.identity, fun _ r => r⟩

/-- The calls of the Play Integrity service. -/
def nonceCalls : SigHom nonceSig dataSig :=
  ⟨.nonce, fun _ r => r⟩

/-! ## Who calls -/

def verifyDeviceReportSecret (workspaceSlug : String) (providedSecret : Option String) :
    DeviceData Unit := do
  match ← ask (.findDeviceReportSecret workspaceSlug) with
  | none =>
    fail 503 ("No device-report webhook secret is configured for workspace '" ++ workspaceSlug ++ "'. Generate one from Settings.")
  | some secret =>
    match truthy providedSecret with
    | none => fail 401 "Invalid device-report secret"
    | some provided =>
      if provided = secret then pure () else fail 401 "Invalid device-report secret"

def verifyDeviceIdentity (mtlsInternalProxySecret : String) (req : DeviceHeaders)
    (workspaceSlug : String) : DeviceData Unit := do
  let enforced ← ask (.getMtlsEnforcementEnabled workspaceSlug)
  if enforced then
    let _ ← (assertMtlsIdentity mtlsInternalProxySecret req.identity).embed identityCalls
    pure ()
  else verifyDeviceReportSecret workspaceSlug req.deviceReportSecret

/-! ## Attributes -/

def WINDOWS_ATTR_ALIASES : List (String × String) :=
  [("BitLockerStatus", "diskEncryptionEnabled"), ("BitLockerEnabled", "diskEncryptionEnabled"),
    ("FirewallEnabled", "firewallEnabled"), ("DefenderEnabled", "antivirusEnabled"),
    ("AntivirusEnabled", "antivirusEnabled"), ("AntivirusUpToDate", "antivirusUpToDate"),
    ("OsBuild", "osBuildNumber"), ("OsBuildNumber", "osBuildNumber"), ("OsEdition", "osEdition"),
    ("PendingUpdatesCount", "pendingOsUpdates"), ("DomainJoined", "domainJoined"),
    ("AzureAdJoined", "entraJoined"), ("EntraJoined", "entraJoined"),
    ("UptimeDays", "uptimeDays"), ("DiskFreeGb", "diskFreeGb"),
    ("DiskUsedPercent", "diskUsedPercent"), ("ScreenLockEnabled", "screenLockEnabled"),
    ("TpmEnabled", "tpmEnabled"), ("TpmReady", "tpmEnabled"),
    ("SecureBootEnabled", "secureBootEnabled"), ("SecureBootAvailable", "secureBootAvailable"),
    ("VbsEnabled", "vbsEnabled"), ("VbsRunning", "vbsRunning"),
    ("CredentialGuardRunning", "credentialGuardEnabled"),
    ("HvciRunning", "memoryIntegrityEnabled"), ("ElamEnabled", "elamEnabled")]

def MACOS_ATTR_ALIASES : List (String × String) :=
  [("FileVaultEnabled", "diskEncryptionEnabled"), ("FileVaultStatus", "diskEncryptionEnabled"),
    ("FirewallEnabled", "firewallEnabled"), ("XProtectEnabled", "antivirusEnabled"),
    ("AntivirusEnabled", "antivirusEnabled"), ("OsBuild", "osBuildNumber"),
    ("OsBuildNumber", "osBuildNumber"), ("PendingUpdatesCount", "pendingOsUpdates"),
    ("MdmEnrolled", "domainJoined"), ("UptimeDays", "uptimeDays"), ("DiskFreeGb", "diskFreeGb"),
    ("DiskUsedPercent", "diskUsedPercent"), ("ScreenLockEnabled", "screenLockEnabled"),
    ("SecureTokenEnabled", "secureBootEnabled")]

/-- `out[key] = v`. -/
def setKey (out : List (String × Value)) (key : String) (v : Value) : List (String × Value) :=
  if out.any fun entry => entry.1 = key then
    out.map fun entry => if entry.1 = key then (key, v) else entry
  else out ++ [(key, v)]

/-- `aliasMap[k] ?? k`, as a key. -/
def aliasKey (r : Runtime) (platform k : String) : String :=
  let aliasMap :=
    if platform = "windows" then WINDOWS_ATTR_ALIASES
    else if platform = "macos" then MACOS_ATTR_ALIASES
    else []
  match aliasMap.lookup k with
  | some key => key
  | none => ((r.inherited k).orElse (.str k)).text r

def normalizePushedAttributes (r : Runtime) (platform : String)
    (attributes : List (String × Value)) : List (String × Value) :=
  attributes.foldl (fun out entry => setKey out (aliasKey r platform entry.1) entry.2) []

/-- The verified verdicts are written over what is there. -/
def mergeDerived (normalized : List (String × Value)) (derived : PlayIntegrityDerivedAttributes) :
    List (String × Value) :=
  setKey (setKey normalized "playIntegrityVerdict" (.str derived.playIntegrityVerdict))
    "playIntegrityAppRecognized" (.bool derived.playIntegrityAppRecognized)

/-! ## Reports -/

/-- `!serialNumber.trim()`. -/
def isBlank (s : String) : Bool :=
  trim s.toList = []

/-- The attributes with the verdicts of the token, if there is one and it holds. -/
def attributesToStore (r : Runtime) (workspaceSlug : String) (payload : DeviceReportPayload) :
    DeviceData (List (String × Value)) := do
  let normalized := normalizePushedAttributes r payload.platform payload.attributes
  match truthy payload.playIntegrityToken with
  | none => pure normalized
  | some token =>
    let derived ← ((verifyAndDecodeToken workspaceSlug payload.serialNumber token).embed
      nonceCalls).attempt
    match derived with
    | .ok (some derived) => return mergeDerived normalized derived
    | _ => return normalized

/-- The record that replaces the stored one. -/
def pushRecord (payload : DeviceReportPayload) (normalized : List (String × Value))
    (existing : Option PushRecord) : PushRecord where
  platform := payload.platform
  attributes := normalized
  customCheckResults :=
    payload.customCheckResults.orElse fun _ => existing.bind PushRecord.customCheckResults
  agentVersion := payload.agentVersion
  clientReportedAt := payload.reportedAt
  reportCount := (existing.elim 0 PushRecord.reportCount) + 1

/-- `matched?.displayName || serialNumber`. -/
def deviceName (serialNumber : String) (matched : Option DeviceEntry) : String :=
  orElse (matched.bind DeviceEntry.displayName) serialNumber

/-- `reportDeviceData`: how many attributes were stored. -/
def reportDeviceData (r : Runtime) (workspaceSlug : String) (payload : DeviceReportPayload) :
    DeviceData ℕ :=
  if isBlank payload.serialNumber then fail 400 "serialNumber is required"
  else do
    let normalized ← attributesToStore r workspaceSlug payload
    let nowIso : ℕ ← ask .newDate
    let existing ← ask (.findDevicePushData workspaceSlug payload.serialNumber)
    ask (.upsertDevicePushData workspaceSlug payload.serialNumber
      (pushRecord payload normalized existing) nowIso)
    let matched ← ask (.serialIndex workspaceSlug payload.serialNumber)
    ask (.recordAuditEvent workspaceSlug "device_data_received" payload.serialNumber
      (deviceName payload.serialNumber matched))
    ask (.invalidateDevicesCache workspaceSlug)
    ask (.triggerEventDrivenReEvaluation workspaceSlug payload.serialNumber)
    return normalized.length

/-- What the sorting of apps takes from the runtime: the order of UTF-16 units
and `localeCompare`, each as `a` not after `b`. -/
structure Collation where
  unitsLe : String → String → Bool
  localeLe : String → String → Bool

/-- An app with an identifier and a version. -/
def versionedApp (r : Runtime) (a : ReportedApp) : Option InstalledApp :=
  match truthy a.identifier, truthy a.version with
  | some identifier, some version =>
    some { identifier := r.toLowerCase identifier, name := a.name, version,
           origin := truthy a.origin, installLocation := truthy a.installLocation,
           sha256 := (truthy a.sha256).map r.toLowerCase }
  | _, _ => none

/-- The entry that a report of apps makes. -/
def appsEntry (r : Runtime) (coll : Collation) (payload : DeviceAppReportPayload) (nowIso : ℕ) :
    InstalledAppsEntry where
  identifiers :=
    ((payload.apps.filterMap fun a => (truthy a.identifier).map r.toLowerCase).eraseDups).mergeSort
      coll.unitsLe
  apps := (payload.apps.filterMap (versionedApp r)).mergeSort fun a b =>
    coll.localeLe a.identifier b.identifier
  platform := payload.platform
  fetchedAt := nowIso
  source := "self_reported"
  agentVersion := payload.agentVersion
  clientReportedAt := payload.reportedAt

/-- `reportDeviceApps`: how many apps were reported, and whether the device is
known. -/
def reportDeviceApps (r : Runtime) (coll : Collation) (workspaceSlug : String)
    (payload : DeviceAppReportPayload) : DeviceData (ℕ × Bool) :=
  if isBlank payload.serialNumber then fail 400 "serialNumber is required"
  else do
    let nowIso : ℕ ← ask .newDate
    let matched ← ask (.serialIndex workspaceSlug payload.serialNumber)
    let entry := appsEntry r coll payload nowIso
    let matchedFlag ← storeApps workspaceSlug payload.serialNumber
      (truthy (matched.map DeviceEntry.id)) entry nowIso
    ask (.recordAuditEvent workspaceSlug "device_apps_received" payload.serialNumber
      (deviceName payload.serialNumber matched))
    return (entry.identifiers.length, matchedFlag)
where
  /-- The slot of a known device, or the buffer. -/
  storeApps (workspaceSlug serialNumber : String) (deviceId : Option String)
      (entry : InstalledAppsEntry) (nowIso : ℕ) : DeviceData Bool :=
    match deviceId with
    | some deviceId => do
      ask (.upsertInstalledAppsSlot workspaceSlug deviceId entry nowIso)
      ask (.deletePendingAppReports workspaceSlug serialNumber)
      ask (.invalidateDevicesCache workspaceSlug)
      return true
    | none => do
      ask (.upsertPendingAppReport workspaceSlug serialNumber entry)
      return false

/-! ## Routes -/

/-- What a request asks for: a body that the schema took, or the query
parameter `serialNumber`. -/
inductive DataRoute
  | report (payload : Option DeviceReportPayload)
  | reportApps (payload : Option DeviceAppReportPayload)
  | playIntegrityNonce (serialNumber : Option String)

/-- `schema.parse`. -/
def parsed {α : Type} (payload : Option α) : DeviceData α :=
  match payload with
  | some payload => pure payload
  | none => Prog.ret (.error (.other "ZodError"))

/-- The handler of a route. -/
def handleData (r : Runtime) (coll : Collation) (mtlsInternalProxySecret : String)
    (req : DeviceHeaders) (route : DataRoute) : DeviceData Unit := do
  let workspaceSlug := workspaceOf req.identity.workspaceSlug
  verifyDeviceIdentity mtlsInternalProxySecret req workspaceSlug
  match route with
  | .report payload => do
    let payload ← parsed payload
    let _ ← reportDeviceData r workspaceSlug payload
    pure ()
  | .reportApps payload => do
    let payload ← parsed payload
    let _ ← reportDeviceApps r coll workspaceSlug payload
    pure ()
  | .playIntegrityNonce serialNumber => do
    let serialNumber := String.ofList (trim (serialNumber.getD "").toList)
    if serialNumber = "" then fail 400 "serialNumber query param is required"
    else do
      let _ ← (issueNonce workspaceSlug serialNumber).embed nonceCalls
      pure ()

end AppliverySoar.DeviceData
