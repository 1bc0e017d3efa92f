import AppliverySoar.Config.Stores
import AppliverySoar.Requests.Server

/-!
# Export, import and clone (config.service.ts, config.controller.ts)

The four configuration routes as one request handler on the tables of all
workspaces. The gate on the three that move configuration is asked about the
workspace in the header only.

Results:
* `handleConfig_refused`: a request that the gate refuses gets the refusal and
  changes nothing.
-/

namespace AppliverySoar.Config

open Access

variable {B : Type}

/-! ## Services -/

/-- `workspaceConfigIsEmpty` (lines 122–128). -/
def workspaceConfigIsEmpty (workspaceSlug : String) (st : ConfigState B) :
    Bool × List (ConfigStoreKey × Bool) :=
  let hasData := configStoreKeys.map fun key =>
    (key, !(storeHandlers key).isEmpty workspaceSlug st)
  (!hasData.any Prod.snd, hasData)

/-- `exportWorkspaceConfig` (lines 131–146). -/
def exportWorkspaceConfig (workspaceSlug : String) (st : ConfigState B) :
    List (ConfigStoreKey × StoreData B) :=
  configStoreKeys.map fun key => (key, (storeHandlers key).load workspaceSlug st)

/-- The loop of `importWorkspaceConfig` (lines 149–167): the stores imported,
the stores that failed, and the tables. A failure does not end it. -/
def importWorkspaceConfig (sc : Schema B) (workspaceSlug : String)
    (data : ConfigStoreKey → Option (StoreData B)) :
    List ConfigStoreKey → ConfigState B →
      (List ConfigStoreKey × List (ConfigStoreKey × DbError)) × ConfigState B
  | [], st => (([], []), st)
  | key :: stores, st =>
    match data key with
    | none => importWorkspaceConfig sc workspaceSlug data stores st
    | some d =>
      let (saved, st') := (storeHandlers key).save sc workspaceSlug d st
      let ((imported, failed), st'') := importWorkspaceConfig sc workspaceSlug data stores st'
      match saved with
      | .ok () => ((key :: imported, failed), st'')
      | .error e => ((imported, (key, e) :: failed), st'')

/-- The loop of `cloneWorkspaceConfig` (lines 182–186); the first failure ends
it. -/
def cloneStores (sc : Schema B) (workspaceSlug sourceWorkspaceSlug : String) :
    List ConfigStoreKey → ConfigState B → Except DbError Unit × ConfigState B
  | [], st => (.ok (), st)
  | key :: stores, st =>
    let data := (storeHandlers key).load sourceWorkspaceSlug st
    match (storeHandlers key).save sc workspaceSlug data st with
    | (.error e, st') => (.error e, st')
    | (.ok (), st') => cloneStores sc workspaceSlug sourceWorkspaceSlug stores st'

/-! ## Requests -/

/-- A request to one of the four routes, with a body its schema accepts; a
schema version is the number as it is printed. -/
inductive ConfigRoute (B : Type)
  | workspaceStatus
  | cloneFrom (sourceWorkspaceSlug : String) (stores : List ConfigStoreKey)
  | exportConfig
  | importConfig (schemaVersion : String) (data : ConfigStoreKey → Option (StoreData B))
      (stores : List ConfigStoreKey)

/-- A request: what `verifyDashboardToken` says to its token, the access cached
for its sender and the workspace in its header, and what it asks. -/
structure ConfigRequest (B : Type) where
  session : Except HttpError Unit
  cached : Option ResolvedAccess
  route : ConfigRoute B

/-- What the sender sees. -/
inductive ConfigResponse (B : Type)
  | status (isEmpty : Bool) (hasData : List (ConfigStoreKey × Bool))
  | exported (workspaceSlug : String) (data : List (ConfigStoreKey × StoreData B))
  | imported (imported : List ConfigStoreKey) (failed : List (ConfigStoreKey × DbError))
  | cloned (stores : List ConfigStoreKey) (sourceWorkspaceSlug : String)
  | refused (e : HttpError)
  deriving DecidableEq

/-- `CONFIG_EXPORT_SCHEMA_VERSION`, printed. -/
def configExportSchemaVersion : String := "1"

/-- The options of `manageGate` (config.controller.ts, line 13). -/
def exportOrImportConfig : PermissionOptions :=
  { area := some .settings, level := some .manage, action := some .canExportOrImportConfig }

/-- The middleware before a route. -/
def configGate (rq : ConfigRequest B) : Except HttpError Unit :=
  match rq.route with
  | .workspaceStatus => rq.session
  | _ => do
    rq.session
    requirePermission exportOrImportConfig rq.cached

/-- `cloneWorkspaceConfig` (lines 170–192). -/
def cloneWorkspaceConfig (sc : Schema B) (workspaceSlug sourceWorkspaceSlug : String)
    (stores : List ConfigStoreKey) (st : ConfigState B) : ConfigResponse B × ConfigState B :=
  if sourceWorkspaceSlug = workspaceSlug then
    (.refused ⟨400, "Source and target workspace can't be the same."⟩, st)
  else if !(workspaceConfigIsEmpty workspaceSlug st).1 then
    (.refused ⟨400, "This workspace already has configuration — clone-from-another-workspace only runs on a still-empty workspace. Use Settings > Backup & Restore to import a bundle with explicit per-store overwrite instead."⟩, st)
  else
    match cloneStores sc workspaceSlug sourceWorkspaceSlug stores st with
    | (.error _, st') => (.refused ⟨500, "Internal server error"⟩, st')
    | (.ok (), st') => (.cloned stores sourceWorkspaceSlug, st')

/-- The body of a route, behind its middleware. -/
def configRoute (sc : Schema B) (workspaceSlug : String) (st : ConfigState B) :
    ConfigRoute B → ConfigResponse B × ConfigState B
  | .workspaceStatus =>
    let (isEmpty, hasData) := workspaceConfigIsEmpty workspaceSlug st
    (.status isEmpty hasData, st)
  | .cloneFrom source stores => cloneWorkspaceConfig sc workspaceSlug source stores st
  | .exportConfig => (.exported workspaceSlug (exportWorkspaceConfig workspaceSlug st), st)
  | .importConfig version data stores =>
    if version ≠ configExportSchemaVersion then
      (.refused ⟨400, "Unsupported schemaVersion " ++ version ++ " — this deployment reads version "
        ++ configExportSchemaVersion ++ " bundles only."⟩, st)
    else
      let ((imported, failed), st') := importWorkspaceConfig sc workspaceSlug data stores st
      (.imported imported failed, st')

/-- A request with `workspaceSlug` in its header. -/
def handleConfig (sc : Schema B) (workspaceSlug : String) (st : ConfigState B)
    (rq : ConfigRequest B) : ConfigResponse B × ConfigState B :=
  match configGate rq with
  | .error e => (.refused e, st)
  | .ok () => configRoute sc workspaceSlug st rq.route

variable {workspaceSlug : String} {st : ConfigState B} {rq : ConfigRequest B}

theorem handleConfig_refused {sc : Schema B}
    {e : HttpError} (h : configGate rq = .error e) :
    handleConfig sc workspaceSlug st rq = (.refused e, st) := by
  simp only [handleConfig, h]

theorem handleConfig_admitted {sc : Schema B}
    (h : configGate rq = .ok ()) :
    handleConfig sc workspaceSlug st rq = configRoute sc workspaceSlug st rq.route := by
  simp only [handleConfig, h]

end AppliverySoar.Config
