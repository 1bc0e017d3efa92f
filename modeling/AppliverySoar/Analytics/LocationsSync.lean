import AppliverySoar.Geofencing.LocationsRefresh
import Mathlib.Data.List.AList

/-!
# The sync of device locations

Model of `syncDeviceLocations` (locationsSync.service.ts, lines 21–101). Calls for
any workspaces are at work at the same time; each of them goes on when what it
awaits is answered. The locations of a batch are awaited together, and their
answers come in any order. All calls keep their positions in one row.

Left out: the headers, the base of the URLs and log lines. The pages of the device
list are one `await`.
-/

namespace AppliverySoar.Analytics

open Js Access Compliance Geofencing

/-! ## Positions -/

/-- `{ lat, lng }`; `none` is `NaN`, which the row holds as `null`. -/
structure Position where
  lat : Option ℚ
  lng : Option ℚ
  deriving DecidableEq

/-- The payload of the row. -/
abbrev LocationCache : Type := AList fun _ : String => Position

/-- `LOCATION_SYNC_MIN_INTERVAL_MS`. -/
def locationSyncMinIntervalMs : ℕ := 5 * 60000

def concurrency : ℕ := 10

/-- A location that is asked for. -/
structure LocationFetch where
  devId : String
  mdmType : String
  deriving DecidableEq

/-- `mdmType` (lines 67–69). -/
def mdmType (plat : String) : String :=
  if includes plat "apple" || includes plat "ios" || includes plat "mac" || includes plat "ipad" then
    "admDevice"
  else if includes plat "win" then "winDevice"
  else "emmDevice"

/-- What is asked for a device (lines 64–69); an entry that is `null` throws. -/
def fetchOf (r : Runtime) (dev : Value) : Except String (Option LocationFetch) := do
  let id ← dev.read "id"
  let devId := ((id.orElse (dev.member "_id")).orElse (.str "")).text r
  if devId = "" then return none
  let plat := ((dev.member "type").orElse (dev.member "platform")).orElse (.str "")
  return some ⟨devId, mdmType (r.toLowerCase (plat.text r))⟩

/-- What a batch asks for. -/
def fetchesOf (r : Runtime) (batch : List Value) : Except String (List LocationFetch) := do
  let fetches ← batch.mapM (fetchOf r)
  return fetches.reduceOption

/-- The batches of the loop, `devices.slice(i, i + CONCURRENCY)`. -/
def batchesOf (devices : List Value) : List (List Value) :=
  (List.range ((devices.length + concurrency - 1) / concurrency)).map fun k =>
    (devices.drop (k * concurrency)).take concurrency

/-- The position that an answer gives (lines 71–84). -/
def positionOf (r : Runtime) (answer : Except ServiceError LocationsAnswer) : Option Position :=
  match answer with
  | .error _ => none
  | .ok locRes =>
    if locRes.status ≠ 200 then none
    else
      match extractItems locRes.data with
      | [] => none
      | latest :: _ =>
        match latest.read "latitude", latest.read "longitude" with
        | .ok lat, .ok lng =>
          if lat.isNullish || lng.isNullish then none
          else some ⟨lat.number r, lng.number r⟩
        | _, _ => none

/-! ## Calls -/

/-- What a call returns. -/
structure SyncResult where
  status : String
  syncedDevices : ℕ
  deriving DecidableEq

/-- Where a call awaits: the organization, the devices, the row, the locations of a
batch, the write of the row. -/
inductive Stage
  | resolving
  | listing
  | readingCache (devices : List Value)
  | fetching (cache : LocationCache) (fetches : List LocationFetch) (later : List (List Value))
  | writing (cache : LocationCache)
  | ended (result : Except ServiceError SyncResult)

/-- What has happened to the row, and the positions that calls have obtained. -/
inductive Effect
  | cacheRead (call : ℕ)
  | obtained (call : ℕ) (devId : String) (position : Position)
  | cacheWritten (call : ℕ)
  deriving DecidableEq

/-- The row, the cooldown map and the calls in the order in which they were made. -/
structure SyncState where
  row : Option LocationCache
  lastLocationSync : String → Option ℕ
  calls : List Stage := []
  effects : List Effect := []

/-- The error of a call that comes too early (lines 26–33). -/
def cooldownError (now last : ℕ) : Option HttpError :=
  let elapsedMs : ℤ := now - last
  if elapsedMs < locationSyncMinIntervalMs then
    let waitMinutes := (locationSyncMinIntervalMs - elapsedMs) / 60000 + 1
    some ⟨429, "Location sync ran recently — it fires one request per device, so it's capped to once every " ++
      toString (locationSyncMinIntervalMs / 60000) ++ " minutes. Try again in about " ++
      toString waitMinutes ++ " minute(s)."⟩
  else none

/-- What the error of the device list is thrown on as (lines 47–50). -/
def listError : ServiceError → ServiceError
  | .http e => .http e
  | .other message => .http ⟨500, "Connection error to Applivery: " ++ message⟩

/-- The start of the next batch that asks for anything, or of the write. -/
def nextBatch (r : Runtime) (cache : LocationCache) : List (List Value) → Stage
  | [] => .writing cache
  | batch :: later =>
    match fetchesOf r batch with
    | .error e => .ended (.error (.other e))
    | .ok [] => nextBatch r cache later
    | .ok (fetch :: fetches) => .fetching cache (fetch :: fetches) later

/-- A call up to its first `await`; it reads the clock twice. -/
def SyncState.begin (s : SyncState) (workspaceSlug : String) (now later : ℕ) : SyncState :=
  match (s.lastLocationSync workspaceSlug).bind (cooldownError now) with
  | some e => { s with calls := s.calls ++ [.ended (.error (.http e))] }
  | none =>
    { s with
      lastLocationSync := Function.update s.lastLocationSync workspaceSlug (some later)
      calls := s.calls ++ [.resolving] }

/-- The call goes on to another stage. -/
def SyncState.goOn (s : SyncState) (call : ℕ) (stage : Stage) (effects : List Effect) : SyncState :=
  { s with calls := s.calls.set call stage, effects := s.effects ++ effects }

/-- A position is put into the map of its call. -/
def keep (cache : LocationCache) (devId : String) : Option Position → LocationCache
  | some position => cache.insert devId position
  | none => cache

/-- The batch when one of its locations has been answered. -/
def afterLocation (r : Runtime) (cache : LocationCache) (fetches : List LocationFetch)
    (later : List (List Value)) : Stage :=
  if fetches.isEmpty then nextBatch r cache later else .fetching cache fetches later

/-! ## Interleavings -/

/-- What happens next: a call is made, or what one of them awaits is answered. The row
is read and written or not; a location is one of those that the batch awaits. -/
inductive Label
  | called (workspaceSlug : String) (now later : ℕ)
  | resolved (call : ℕ) (answer : Except ServiceError Unit)
  | listed (call : ℕ) (answer : Except ServiceError (List Value))
  | cacheRead (call : ℕ) (answered : Bool)
  | located (call k : ℕ) (answer : Except ServiceError LocationsAnswer)
  | cacheWritten (call : ℕ) (stored : Bool)

/-- A step. -/
def step (r : Runtime) (s : SyncState) : Label → Option SyncState
  | .called workspaceSlug now later => some (s.begin workspaceSlug now later)
  | .resolved call answer =>
    match s.calls[call]? with
    | some .resolving =>
      match answer with
      | .ok _ => some (s.goOn call .listing [])
      | .error e => some (s.goOn call (.ended (.error e)) [])
    | _ => none
  | .listed call answer =>
    match s.calls[call]? with
    | some .listing =>
      match answer with
      | .ok devices => some (s.goOn call (.readingCache devices) [])
      | .error e => some (s.goOn call (.ended (.error (listError e))) [])
    | _ => none
  | .cacheRead call answered =>
    match s.calls[call]? with
    | some (.readingCache devices) =>
      let cache := if answered then s.row.getD ∅ else ∅
      some (s.goOn call (nextBatch r cache (batchesOf devices)) [.cacheRead call])
    | _ => none
  | .located call k answer =>
    match s.calls[call]? with
    | some (.fetching cache fetches later) =>
      match fetches[k]? with
      | some fetch =>
        let position := positionOf r answer
        some (s.goOn call
          (afterLocation r (keep cache fetch.devId position) (fetches.eraseIdx k) later)
          (position.toList.map (.obtained call fetch.devId)))
      | none => none
    | _ => none
  | .cacheWritten call stored =>
    match s.calls[call]? with
    | some (.writing cache) =>
      let s' := s.goOn call (.ended (.ok ⟨"success", cache.keys.length⟩))
        (if stored then [.cacheWritten call] else [])
      some { s' with row := if stored then some cache else s.row }
    | _ => none

/-- The interleavings of calls, each step of which satisfies `cond`. -/
inductive Run (r : Runtime) (cond : SyncState → Label → Prop) (init : SyncState) :
    List Label → SyncState → Prop
  | nil : Run r cond init [] init
  | snoc {ls : List Label} {s s' : SyncState} {l : Label} : Run r cond init ls s → cond s l →
      step r s l = some s' → Run r cond init (ls ++ [l]) s'

/-- Steps one after the other, as far as `check` passes them. -/
def play (r : Runtime) (check : SyncState → Label → Bool) (s : SyncState) (ls : List Label) :
    Option SyncState :=
  ls.foldlM (fun s l => if check s l then step r s l else none) s

end AppliverySoar.Analytics
