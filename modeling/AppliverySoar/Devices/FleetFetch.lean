import AppliverySoar.Compliance.Types

/-!
# The uncached pull of a fleet

`resolveOrgBase` (rbac.service.ts), `fetchAllPages` (appliveryPaginate.ts),
`fetchDeviceAudienceMembershipMap` and `fetchDevicesFullUncached`
(devices.service.ts), as programs over the requests they await. Every request of
one pull carries the same `Authorization` header, which is therefore no part of
the request. The records of the API are read through the properties that these
functions read; the local lookups and the normalization (devices.service.ts,
lines 297 to 520) are a parameter.
-/

namespace AppliverySoar.Devices

open Async Compliance

/-! ## Requests -/

/-- What the API and the local stores hold. `idText` is
`String(i.id ?? i._id ?? "")`, and `platformIds` lists those of `admDevice`,
`emmDevice` and `winDevice` that a record has. -/
structure FleetTypes where
  Record : Type
  idText : Record → String
  platformIds : Record → List String
  name : Record → Option String
  Lookup : Type
  Rows : Lookup → Type
  Device : Type
  appliveryApiUrl : String

/-- A `GET` to the API, or a lookup in a local store. -/
inductive FleetCall (T : FleetTypes)
  | organization (workspaceSlug : String)
  | list (url : String) (params : List (String × String)) (limit page : ℕ)
  | deviceAudiences (url : String) (limit : ℕ)
  | lookup (q : T.Lookup)

/-- A response to `GET /organizations/…`, with `_id ?? id` of its body. -/
structure OrganizationAnswer where
  status : ℕ
  id : Option String

/-- A response to a list endpoint: `JSON.stringify` and `extractItems` of its
body, and whether `hasNextPage` is truthy. -/
structure ListAnswer (T : FleetTypes) where
  status : ℕ
  text : String
  items : List T.Record
  hasNextPage : Bool

def fleetSig (T : FleetTypes) : Sig where
  Call := FleetCall T
  Ret
    | .organization _ => OrganizationAnswer
    | .list _ _ _ _ => ListAnswer T
    | .deviceAudiences _ _ => ListAnswer T
    | .lookup q => T.Rows q

/-- A function that awaits requests and lookups. -/
abbrev Fetch (T : FleetTypes) (α : Type) := Prog (fleetSig T) ServiceError α

variable {T : FleetTypes}

def request (c : FleetCall T) : Fetch T ((fleetSig T).Ret c) :=
  Prog.call (S := fleetSig T) c

/-! ## Organizations and pages -/

/-- `/^[a-fA-F0-9]{24}$/`. -/
def isHexId (s : String) : Bool :=
  s.toList.length = 24 &&
    s.toList.all fun c => c.isDigit || ('a' ≤ c && c ≤ 'f') || ('A' ≤ c && c ≤ 'F')

def organizationUrl (T : FleetTypes) (hexId : String) : String :=
  T.appliveryApiUrl ++ "/organizations/" ++ hexId

def resolveOrgBase (workspaceSlug : String) : Fetch T String :=
  if isHexId workspaceSlug then pure (organizationUrl T workspaceSlug)
  else do
    let res ← request (.organization workspaceSlug)
    pure (organizationUrl T
      (if res.status = 200 then res.id.getD workspaceSlug else workspaceSlug))

/-- The `while` loop of `fetchAllPages`, with `left` pages before the ceiling. -/
def fetchPages (url : String) (baseParams : List (String × String)) (pageLimit : ℕ) :
    (left page : ℕ) → List T.Record → Fetch T (List T.Record)
  | 0, _, allItems => pure allItems
  | left + 1, page, allItems => do
    let res ← request (.list url baseParams pageLimit page)
    if res.status ≠ 200 then
      if page = 1 then
        .ret (.error (.http ⟨502, "Applivery API returned " ++ toString res.status ++ ": " ++
          String.ofList (res.text.toList.take 300)⟩))
      else pure allItems
    else if res.items.isEmpty then pure allItems
    else if !res.hasNextPage then pure (allItems ++ res.items)
    else fetchPages url baseParams pageLimit left (page + 1) (allItems ++ res.items)

def fetchAllPages (url : String) (baseParams : List (String × String)) :
    Fetch T (List T.Record) :=
  fetchPages url baseParams 10000 100 1 []

/-! ## Audiences -/

structure DeviceAudienceRef where
  id : String
  name : String

/-- `audienceMap`; a device without an entry is in no audience. -/
abbrev AudienceMap := String → List DeviceAudienceRef

/-- `platformIdToUnifiedId` of the devices. -/
def unifiedIds (rawDevices : List T.Record) : String → Option String :=
  rawDevices.foldl
    (fun ids raw =>
      if T.idText raw = "" then ids
      else (T.platformIds raw).foldl
        (fun ids pid => if pid = "" then ids else Function.update ids pid (some (T.idText raw)))
        (Function.update ids (T.idText raw) (some (T.idText raw))))
    fun _ => none

/-- `memberIds` of a preview: known ids as the ids of devices, others as they
are. -/
def memberIds (ids : String → Option String) (previewItems : List T.Record) : List String :=
  ((previewItems.filter fun dev => T.idText dev ≠ "").map fun dev =>
    (ids (T.idText dev)).getD (T.idText dev)).dedup

/-- `audienceMap[devId].push(…)` for every member. -/
def addMembers (audienceMap : AudienceMap) (ref : DeviceAudienceRef) (members : List String) :
    AudienceMap :=
  fun devId => if devId ∈ members then audienceMap devId ++ [ref] else audienceMap devId

/-- An audience whose preview fails is passed over. -/
def addAudience (orgBase : String) (ids : String → Option String) (audienceMap : AudienceMap)
    (aud : T.Record) : Fetch T AudienceMap :=
  if T.idText aud = "" then pure audienceMap
  else do
    let preview ← (fetchAllPages (T := T)
      (orgBase ++ "/mdm/device-audiences/" ++ T.idText aud ++ "/preview") []).attempt
    match preview with
    | .error _ => pure audienceMap
    | .ok previewItems =>
      pure (addMembers audienceMap ⟨T.idText aud, (T.name aud).getD "Unnamed audience"⟩
        (memberIds ids previewItems))

def fetchDeviceAudienceMembershipMap (orgBase : String) (rawDevices : List T.Record) :
    Fetch T AudienceMap := do
  let res ← (request (T := T) (.deviceAudiences (orgBase ++ "/mdm/device-audiences") 500)).attempt
  match res with
  | .error _ => pure fun _ => []
  | .ok res =>
    if res.status ≠ 200 then pure fun _ => []
    else res.items.foldlM (addAudience orgBase (unifiedIds rawDevices)) fun _ => []

/-! ## The fleet -/

/-- The local lookups and the normalization that follow the requests, from the
key of the workspace, its devices, the ids of the compliant ones and the
audiences. -/
structure FleetEnv extends FleetTypes where
  assemble : String → List Record → List String → AudienceMap → Fetch toFleetTypes (List Device)

/-- `workspaceSlug || "global"`. -/
def slugKey (workspaceSlug : String) : String :=
  if workspaceSlug = "" then "global" else workspaceSlug

def fetchDevicesFullUncached (E : FleetEnv) (workspaceSlug : String) :
    Fetch E.toFleetTypes (List E.Device) := do
  let orgBase ← resolveOrgBase workspaceSlug
  let itemsAll ← fetchAllPages (orgBase ++ "/mdm/devices/") [("subType", "device")]
  let itemsComp ← fetchAllPages (T := E.toFleetTypes) (orgBase ++ "/mdm/devices/")
    [("subType", "device"), ("isCompliance", "true")]
  let audienceMap ← fetchDeviceAudienceMembershipMap orgBase itemsAll
  E.assemble (slugKey workspaceSlug) itemsAll (itemsComp.map E.idText) audienceMap

end AppliverySoar.Devices
