import AppliverySoar.Async.Sequence
import AppliverySoar.Compliance.Types
import AppliverySoar.Js.Json
import AppliverySoar.Js.OrderedMap
import Mathlib.Data.List.SplitOn

/-!
# The cache of the Vulnerability Service

`refreshVulnServiceForWorkspace` gathers the versions of operating systems and of
apps in a fleet, asks a Worker for the vulnerabilities of each and keeps the
answers in `VulnServiceCache`; `computeVulnServiceStatus` reads that cache for one
device (vulnService.ts; vulnSources.ts, lines 154–186). The keys of the cache are
texts that the two build apart.
-/

namespace AppliverySoar.Catalogs

open Async Compliance Js

/-! ## Data -/

/-- An app of an `InstalledAppsEntry`; the body of a report may leave either text
out. -/
structure InstalledApp where
  identifier : Option String
  version : Option String
  deriving DecidableEq

structure InstalledAppsEntry where
  apps : Option (List InstalledApp)
  fetchedAt : String
  deriving DecidableEq

structure InstalledAppsRecord where
  selfReported : Option InstalledAppsEntry
  serverFetch : Option InstalledAppsEntry
  deriving DecidableEq

/-- `NormalizedDevice`, as far as the service reads it. -/
structure NormalizedDevice where
  id : String
  platform : String
  osVersion : String
  osPatchLevel : Option String
  deriving DecidableEq

/-- `VulnServiceConfig`, as far as a refresh reads it. -/
structure VulnServiceConfig where
  baseUrl : String
  apiTokenEncrypted : Option String
  deriving DecidableEq

/-- A `VulnServiceCache` row, without the workspace and the key. -/
structure CacheRow where
  result : Value
  cachedAt : ℚ

/-- What the Worker is asked about an app. -/
structure AppCombo where
  identifier : String
  version : String
  platform : String
  deriving DecidableEq

/-- The body of a request to the Worker. -/
inductive VulnQuery
  | os (platform osVersion : String)
  | apps (apps : List AppCombo)
  deriving DecidableEq

/-- A response of the Worker. -/
structure WorkerResponse where
  status : ℕ
  data : Value

/-- The counters of a refresh. -/
structure VulnStats where
  osQueried : ℕ
  osErrors : ℕ
  osTotal : ℕ
  appsQueried : ℕ
  appsErrors : ℕ
  appsTotal : ℕ
  appsTotalByPlatform : OrderedMap ℕ
  appsMappedByPlatform : OrderedMap ℕ
  appsUnmappedByPlatform : OrderedMap ℕ
  appsRemaining : ℕ
  cacheEvicted : ℕ
  forced : Bool
  refreshedAt : ℚ

/-! ## Calls -/

/-- What the service awaits; `findCacheRows` answers keys with their rows, and a
row is deleted by the key that it is unique for. -/
inductive VulnCall
  | loadConfigRow (workspaceSlug : String)
  | decryptSecret (text : String)
  | getDevicesFull (bearer workspaceSlug : String)
  | loadInstalledAppsStore (workspaceSlug : String)
  | findCacheRows (workspaceSlug : String)
  | deleteCacheRow (workspaceSlug key : String)
  | now
  | sleep (ms : ℕ)
  | post (url token : String) (body : VulnQuery)
  | upsertCacheRow (workspaceSlug key : String) (result : Value) (cachedAt : ℚ)
  | updateConfig (workspaceSlug : String) (lastRefreshAt : ℚ) (lastRefreshError : Option String)
      (lastRefreshStats : VulnStats)
  | getEnabledVulnSourcePlugins (workspaceSlug : String)
  | findCacheRow (workspaceSlug key : String)
  | getPluginCacheRow (plugin workspaceSlug key : String)

/-- What a call is answered. -/
@[reducible] def VulnCall.Answer : VulnCall → Type
  | .loadConfigRow _ => Option VulnServiceConfig
  | .decryptSecret _ => String
  | .getDevicesFull .. => List NormalizedDevice
  | .loadInstalledAppsStore _ => String → Option InstalledAppsRecord
  | .findCacheRows _ => List (String × CacheRow)
  | .deleteCacheRow .. => Unit
  | .now => ℚ
  | .sleep _ => Unit
  | .post .. => WorkerResponse
  | .upsertCacheRow .. => Unit
  | .updateConfig .. => Unit
  | .getEnabledVulnSourcePlugins _ => List String
  | .findCacheRow .. => Option CacheRow
  | .getPluginCacheRow .. => Option CacheRow

/-- The signature of the calls. -/
@[reducible] def vulnSig : Sig where
  Call := VulnCall
  Ret := VulnCall.Answer

/-- An `async` function of the module. -/
abbrev VulnProg (α : Type) : Type := Prog vulnSig ServiceError α

/-- A call and its answer. -/
abbrev VulnMove : Type := Event vulnSig ServiceError

/-- `await` of one of the calls. -/
def ask (c : VulnCall) : VulnProg (VulnCall.Answer c) :=
  Prog.call (S := vulnSig) c

/-! ## Keys -/

/-- `PLATFORM_MAP`. -/
def platformMap (platform : String) : Option String :=
  if platform = "macos" then some "macos"
  else if platform = "apple" then some "ios"
  else if platform = "android" || platform = "aosp" then some "android"
  else if platform = "windows" then some "windows"
  else none

/-- What follows the first digit of a dotted version. -/
def versionTail : List Char → List Char
  | [] => []
  | '.' :: d :: s => if d.isDigit then '.' :: d :: versionTail s else []
  | c :: s => if c.isDigit then c :: versionTail s else []

def extractLeadingVersion (raw : String) : Option String :=
  match raw.toList with
  | [] => none
  | c :: s => if c.isDigit then some (String.ofList (c :: versionTail s)) else none

/-- `normalizeOsVersionForWorker`: the first three segments on Windows. -/
def normalizeOsVersionForWorker (workerPlatform osVersion : String) : String :=
  if workerPlatform ≠ "windows" then osVersion
  else
    let parts := osVersion.toList.splitOn '.'
    if 3 < parts.length then String.ofList (['.'].intercalate (parts.take 3)) else osVersion

/-- `${platform}|${osVersion}`. -/
def osKey (platform osVersion : String) : String :=
  platform ++ "|" ++ osVersion

/-- `${identifier.toLowerCase()}|${version}|${platform}`. -/
def appKey (r : Runtime) (combo : AppCombo) : String :=
  r.toLowerCase combo.identifier ++ "|" ++ combo.version ++ "|" ++ combo.platform

def installedAppsRecordEntries (record : Option InstalledAppsRecord) : List InstalledAppsEntry :=
  match record with
  | none => []
  | some record => record.selfReported.toList ++ record.serverFetch.toList

example : normalizeOsVersionForWorker "windows" "10.0.22631.2861" = "10.0.22631" := by
  decide +kernel

/-! ## What there is to ask -/

/-- `osCombos`: platforms and versions by key. -/
def osCombos (devices : List NormalizedDevice) : OrderedMap (String × String) :=
  devices.foldl (fun combos d =>
    match platformMap d.platform with
    | none => combos
    | some workerPlatform =>
      if d.osVersion = "" then combos
      else
        let osVersion := normalizeOsVersionForWorker workerPlatform d.osVersion
        combos.set (osKey workerPlatform osVersion) (workerPlatform, osVersion)) .empty

/-- App combos by key: every entry stands under the key of its app. -/
structure AppCombos (r : Runtime) extends OrderedMap AppCombo where
  keyed : ∀ e ∈ entries, e.1 = appKey r e.2

namespace AppCombos

variable {r : Runtime}

/-- `new Map()`. -/
def none : AppCombos r :=
  ⟨.empty, fun _ h => nomatch h⟩

/-- An app is set under its key. -/
def add (combos : AppCombos r) (combo : AppCombo) : AppCombos r where
  toOrderedMap := combos.set (appKey r combo) combo
  keyed e h := by
    rcases mem_setEntry h with heq | h
    · rw [(Prod.mk.inj heq).1, (Prod.mk.inj heq).2]
    · exact combos.keyed e h

/-- The apps, in order. -/
def apps (combos : AppCombos r) : List AppCombo :=
  combos.entries.map Prod.snd

end AppCombos

/-- The combo of an app that has an identifier and a version. -/
def comboOf (workerPlatform : String) (a : InstalledApp) : Option AppCombo :=
  match a.identifier, a.version with
  | some identifier, some version =>
    if identifier = "" ∨ version = "" then none
    else some { identifier := identifier, version := version, platform := workerPlatform }
  | _, _ => none

/-- The apps of some entries. -/
def appsOf (entries : List InstalledAppsEntry) : List InstalledApp :=
  entries.flatMap fun entry => entry.apps.getD []

/-- The combos that a device adds to `appCombos`. -/
def combosOf (store : String → Option InstalledAppsRecord) (d : NormalizedDevice) :
    List AppCombo :=
  match platformMap d.platform with
  | none => []
  | some workerPlatform =>
    (appsOf (installedAppsRecordEntries (store d.id))).filterMap (comboOf workerPlatform)

def appCombos (r : Runtime) (devices : List NormalizedDevice)
    (store : String → Option InstalledAppsRecord) : AppCombos r :=
  (devices.flatMap (combosOf store)).foldl AppCombos.add .none

/-! ## Requests -/

/-- `RETRY_STATUSES`. -/
def retryStatuses : List ℕ :=
  [429, 500, 502, 503, 504]

/-- The attempts of `postWithRetry` that are left before the last one, each with the
pause after it. -/
def postAttempts (url token : String) (body : VulnQuery) : List ℕ → VulnProg WorkerResponse
  | [] => ask (.post url token body)
  | pause :: pauses => do
    match ← (ask (.post url token body)).attempt with
    | .ok res =>
      if retryStatuses.contains res.status then
        ask (.sleep pause)
        postAttempts url token body pauses
      else return res
    | .error _ =>
      ask (.sleep pause)
      postAttempts url token body pauses

def postWithRetry (url token : String) (body : VulnQuery) : VulnProg WorkerResponse :=
  postAttempts url token body [1000, 2000]

/-- `CACHE_TTL_MS`. -/
def cacheTtlMs : ℚ :=
  24 * 3600 * 1000

/-- `isFresh` of a refresh. -/
def isFresh (force : Bool) (cachedAt : Option ℚ) : VulnProg Bool :=
  if force then pure false
  else
    match cachedAt with
    | none => pure false
    | some time => do
      let now ← ask .now
      return now - time < cacheTtlMs

/-- What became of the operating systems: queried, and errors. -/
abbrev OsTally : Type := ℕ × ℕ

/-- The query for one operating system (lines 268–275). -/
def storeOs (workspaceSlug base token key platform osVersion : String) : VulnProg Unit := do
  let res ← postWithRetry (base ++ "/v1/vulnerabilities/os") token (.os platform osVersion)
  if res.status ≠ 200 then
    Prog.ret (.error (.other
      ("Vulnerability Service returned " ++ toString res.status ++ " for an OS check")))
  else
    let now ← ask .now
    ask (.upsertCacheRow workspaceSlug key res.data now)

/-- The loop over `osCombos` (lines 264–281). -/
def queryOs (workspaceSlug base token : String) (force : Bool)
    (cacheRows : List (String × CacheRow)) (combos : List (String × String × String)) :
    VulnProg OsTally :=
  combos.foldlM (fun tally combo => do
    let fresh ← isFresh force ((cacheRows.lookup combo.1).map CacheRow.cachedAt)
    if fresh then return tally
    else
      match ← (storeOs workspaceSlug base token combo.1 combo.2.1 combo.2.2).attempt with
      | .ok _ => return (tally.1 + 1, tally.2)
      | .error _ => return (tally.1, tally.2 + 1)) (0, 0)

/-- `toQuery`. -/
def staleApps (force : Bool) (cacheRows : List (String × CacheRow))
    (combos : List (String × AppCombo)) : VulnProg (List (String × AppCombo)) :=
  combos.foldlM (fun toQuery combo => do
    let fresh ← isFresh force ((cacheRows.lookup combo.1).map CacheRow.cachedAt)
    return if fresh then toQuery else toQuery ++ [combo]) []

/-- The chunks `batch.slice(i, i + size)` for `i = 0, size, …`; `fuel` bounds their
number. -/
def chunksFrom {α : Type} (size : ℕ) : ℕ → List α → List (List α)
  | 0, _ => []
  | fuel + 1, batch =>
    if batch.isEmpty then [] else batch.take size :: chunksFrom size fuel (batch.drop size)

/-- The chunks of a batch. -/
def chunksOf {α : Type} (size : ℕ) (batch : List α) : List (List α) :=
  chunksFrom size batch.length batch

/-- `...v`, where `v` can be spread. -/
def spread : Value → Option (List Value)
  | .arr l => some l
  | .str s => some (s.toList.map fun c => .str c.toString)
  | .set l => some (l.map .str)
  | _ => none

/-- `...(res.data?.results ?? [])`. -/
def WorkerResponse.results (res : WorkerResponse) : Option (List Value) :=
  spread ((res.data.member "results").orElse (.arr []))

/-- `results` after the requests for some chunks (lines 297–303). -/
def fetchResults (url token : String) (chunks : List (List AppCombo)) : VulnProg (List Value) :=
  chunks.foldlM (fun results chunk => do
    let res ← postWithRetry url token (.apps chunk)
    if res.status ≠ 200 then
      Prog.ret (.error (.other
        ("Vulnerability Service returned " ++ toString res.status ++ " for an apps batch")))
    else
      match res.results with
      | some found => return results ++ found
      | none => Prog.ret (.error (.other "Spread syntax requires ...iterable"))) []

/-- What became of the apps. -/
structure AppsTally where
  queried : ℕ
  errors : ℕ
  mapped : OrderedMap ℕ
  unmapped : OrderedMap ℕ

/-- Before the first app. -/
def AppsTally.start : AppsTally :=
  ⟨0, 0, .empty, .empty⟩

/-- `bucket[platform] = (bucket[platform] ?? 0) + 1`. -/
def bump (bucket : OrderedMap ℕ) (platform : String) : OrderedMap ℕ :=
  bucket.set platform ((bucket.get platform).getD 0 + 1)

/-- An app is counted with its result. -/
def AppsTally.count (tally : AppsTally) (platform : String) (result : Value) : AppsTally :=
  if (result.member "mapped").truthy then
    { tally with queried := tally.queried + 1, mapped := bump tally.mapped platform }
  else { tally with queried := tally.queried + 1, unmapped := bump tally.unmapped platform }

/-- The loop that stores `results[i]` for the `i`-th app of the batch, from `i` on, and
whether it came to its end (lines 304–315). -/
def storeResults (workspaceSlug : String) (results : List Value) :
    List (String × AppCombo) → ℕ → AppsTally → VulnProg (AppsTally × Bool)
  | [], _, tally => pure (tally, true)
  | (key, combo) :: batch, i, tally => do
    let result := (results[i]?).getD .undefined
    let now ← ask .now
    match ← (ask (.upsertCacheRow workspaceSlug key result now)).attempt with
    | .error _ => pure (tally, false)
    | .ok _ =>
      storeResults workspaceSlug results batch (i + 1) (tally.count combo.platform result)

/-- The query for a batch of apps (lines 295–320). -/
def queryApps (chunkSize : ℕ) (workspaceSlug base token : String)
    (batch : List (String × AppCombo)) : VulnProg AppsTally :=
  if batch.isEmpty then pure .start
  else do
    match ← (fetchResults (base ++ "/v1/vulnerabilities/apps") token
        (chunksOf chunkSize (batch.map Prod.snd))).attempt with
    | .error _ => return { AppsTally.start with errors := batch.length }
    | .ok results =>
      match ← storeResults workspaceSlug results batch 0 .start with
      | (tally, true) => return tally
      | (tally, false) => return { tally with errors := tally.errors + batch.length }

/-! ## A refresh -/

/-- `APPS_CHUNK_SIZE`. -/
def appsChunkSize : ℕ :=
  25

/-- `MAX_APPS_PER_TICK`. -/
def maxAppsPerTick : ℕ :=
  500

/-- The rows whose key is no combo are deleted (lines 252–260). -/
def evictRows (workspaceSlug : String) (keep : String → Bool)
    (cacheRows : List (String × CacheRow)) : VulnProg ℕ :=
  cacheRows.foldlM (fun evicted row =>
    if keep row.1 then pure evicted
    else do
      ask (.deleteCacheRow workspaceSlug row.1)
      return evicted + 1) 0

/-- `lastRefreshError`. -/
def refreshError (osErrors appsErrors : ℕ) : Option String :=
  if osErrors = 0 ∧ appsErrors = 0 then none
  else some (toString osErrors ++ " OS + " ++ toString appsErrors ++ " app quer" ++
    (if osErrors + appsErrors = 1 then "y" else "ies") ++ " failed")

/-- What follows once the fleet is gathered (lines 252–343). -/
def refreshCombos (r : Runtime) (workspaceSlug base token : String) (force : Bool)
    (osCombos : OrderedMap (String × String)) (appCombos : AppCombos r)
    (cacheRows : List (String × CacheRow)) : VulnProg VulnStats := do
  let evicted ← evictRows workspaceSlug
    (fun key => osCombos.has key || appCombos.has key) cacheRows
  let os ← queryOs workspaceSlug base token force cacheRows osCombos.entries
  let toQuery ← staleApps force cacheRows appCombos.entries
  let batch := toQuery.take maxAppsPerTick
  let apps ← queryApps appsChunkSize workspaceSlug base token batch
  let refreshedAt ← ask .now
  let stats : VulnStats :=
    { osQueried := os.1, osErrors := os.2, osTotal := osCombos.size
      appsQueried := apps.queried, appsErrors := apps.errors, appsTotal := appCombos.size
      appsTotalByPlatform := appCombos.apps.foldl (fun m combo => bump m combo.platform) .empty
      appsMappedByPlatform := apps.mapped, appsUnmappedByPlatform := apps.unmapped
      appsRemaining := toQuery.length - batch.length, cacheEvicted := evicted, forced := force
      refreshedAt := refreshedAt }
  let now ← ask .now
  ask (.updateConfig workspaceSlug now (refreshError os.2 apps.errors) stats)
  return stats

/-- `baseUrl.replace(/\/+$/, "")`. -/
def trimSlashes (url : String) : String :=
  String.ofList (url.toList.reverse.dropWhile (· = '/')).reverse

/-- `apiTokenEncrypted ? decryptSecret(apiTokenEncrypted) : ""`. -/
def apiToken (encrypted : Option String) : VulnProg String :=
  match encrypted with
  | none => pure ""
  | some text => if text = "" then pure "" else ask (.decryptSecret text)

def refreshVulnServiceForWorkspace (r : Runtime) (workspaceSlug bearer : String) (force : Bool) :
    VulnProg VulnStats := do
  match ← ask (.loadConfigRow workspaceSlug) with
  | none => Prog.ret (.error (.http
      ⟨400, "Vulnerability Service isn't configured for this workspace yet."⟩))
  | some cfgRow =>
    let token ← apiToken cfgRow.apiTokenEncrypted
    let devices ← ask (.getDevicesFull bearer workspaceSlug)
    let store ← ask (.loadInstalledAppsStore workspaceSlug)
    let cacheRows ← ask (.findCacheRows workspaceSlug)
    refreshCombos r workspaceSlug (trimSlashes cfgRow.baseUrl) token force (osCombos devices)
      (appCombos r devices store) cacheRows

/-! ## Reading for one device -/

/-- `APPS_STALE_AFTER_MS`. -/
def appsStaleAfterMs : ℚ :=
  30 * 24 * 3600 * 1000

def isAppsEntryFresh (r : Runtime) (now : ℚ) (entry : InstalledAppsEntry) : Bool :=
  if entry.fetchedAt = "" then false
  else
    match r.parseDate entry.fetchedAt with
    | none => false
    | some fetchedAt => now - fetchedAt < appsStaleAfterMs

/-- The version that a patch level begins with, where it is preferred. -/
def patchVersion (workerPlatform : String) (d : NormalizedDevice) : Option String :=
  if workerPlatform = "macos" ∨ workerPlatform = "ios" then
    d.osPatchLevel.bind extractLeadingVersion
  else none

def effectiveOsVersion (workerPlatform : String) (d : NormalizedDevice) : String :=
  (patchVersion workerPlatform d).getD d.osVersion

/-- `osKey` of a reader. -/
def lookupOsKey (workerPlatform : String) (d : NormalizedDevice) : Option String :=
  if effectiveOsVersion workerPlatform d = "" then none
  else some (osKey workerPlatform
    (normalizeOsVersionForWorker workerPlatform (effectiveOsVersion workerPlatform d)))

/-- `${(identifier ?? "").toLowerCase()}|${version}|${workerPlatform}`. -/
def lookupAppKey (r : Runtime) (workerPlatform : String) (a : InstalledApp) : String :=
  appKey r
    { identifier := a.identifier.getD "", version := a.version.getD "undefined"
      platform := workerPlatform }

/-- The rows for one key: the service's own, and those of the plugins. -/
structure FoundRows where
  row : Option CacheRow
  extraRows : List (Option CacheRow)

/-- The rows of a key. -/
def findRows (workspaceSlug : String) (plugins : List String) (key : String) :
    VulnProg FoundRows := do
  let row ← ask (.findCacheRow workspaceSlug key)
  let extraRows ← plugins.foldlM (fun rows plugin => do
    let extra ← ask (.getPluginCacheRow plugin workspaceSlug key)
    return rows ++ [extra]) []
  return ⟨row, extraRows⟩

/-- The rows of the apps, each key once (`seenAppKeys`). -/
def findAppRows (r : Runtime) (workspaceSlug workerPlatform : String) (plugins : List String) :
    List InstalledApp → List String → VulnProg (List FoundRows)
  | [], _ => pure []
  | a :: apps, seen =>
    let key := lookupAppKey r workerPlatform a
    if key ∈ seen then findAppRows r workspaceSlug workerPlatform plugins apps seen
    else do
      let found ← findRows workspaceSlug plugins key
      let others ← findAppRows r workspaceSlug workerPlatform plugins apps (key :: seen)
      return found :: others

/-- The rows of the operating system, if there is a key for it. -/
def findOsRows (workspaceSlug : String) (plugins : List String) (key : Option String) :
    VulnProg (Option FoundRows) :=
  match key with
  | none => pure none
  | some key => do
    let found ← findRows workspaceSlug plugins key
    return some found

/-- `computeVulnServiceStatus`: the rows that a status is made of. -/
def computeVulnServiceStatus (r : Runtime) (now : ℚ) (workspaceSlug : String)
    (device : NormalizedDevice) (appsEntries : List InstalledAppsEntry) :
    VulnProg (Option (Option FoundRows × List FoundRows)) :=
  match platformMap device.platform with
  | none => pure none
  | some workerPlatform => do
    let plugins ← ask (.getEnabledVulnSourcePlugins workspaceSlug)
    let os ← findOsRows workspaceSlug plugins (lookupOsKey workerPlatform device)
    let apps ← findAppRows r workspaceSlug workerPlatform plugins
      (appsOf (appsEntries.filter (isAppsEntryFresh r now))) []
    return some (os, apps)

end AppliverySoar.Catalogs
