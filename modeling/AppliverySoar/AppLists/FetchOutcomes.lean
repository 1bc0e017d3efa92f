import AppliverySoar.AppLists.SlotRaces
import AppliverySoar.Async.Play

/-!
# What a fetch of installed apps leaves

`fetchAndStoreInstalledApps` (installedApps.service.ts, lines 209–332) run on the
table: what it leaves when Applivery answers, and when it does not. The queries of
the table succeed here.

Results:
* `run_eq`: the record that a fetch leaves.
* `fetch_outcomes`: a failed fetch keeps what was there and its time, a successful
  one replaces it; over a sequence of fetches the time is that of the last success.
* `failed_fetch_drops`: a failed fetch of a device that is no longer one of Apple.
-/

namespace AppliverySoar.AppLists

open Async Compliance List Function

/-! ## A fetch and what it meets -/

/-- A call of `fetchAndStoreInstalledApps`, what Applivery answers, and the clock: `now` at the first
reading, and `lag` later at the second. -/
structure FetchTry where
  device : NormalizedDevice
  workspaceSlug : String
  applications : Except ServiceError AppsResponse
  windowsApps : WindowsApps
  now : ℕ
  lag : ℕ

/-- The row that is written. -/
def FetchTry.key (t : FetchTry) : String × String :=
  (t.workspaceSlug, t.device.id)

/-- The tables and the clock. -/
structure Desk where
  store : AppsStore
  clock : ℕ

/-- The answers that a fetch gets. -/
def FetchTry.answer (t : FetchTry) (desk : Desk) :
    (c : AppsCall) → Except ServiceError (AppsCall.Answer c)
  | .getApplications _ => t.applications
  | .fetchWindowsDeviceApps _ => .ok t.windowsApps
  | .findInventory workspaceSlug deviceId => .ok (desk.store.inventory (workspaceSlug, deviceId))
  | .upsertInventory .. => .ok ()
  | .data .newDate => .ok desk.clock
  | _ => .error (.other "not a call of a fetch")

/-- What a call leaves. -/
def FetchTry.next (t : FetchTry) (desk : Desk) : AppsCall → Desk
  | .upsertInventory workspaceSlug deviceId apps reportedAt =>
    { desk with store := desk.store.next (.upsertInventory workspaceSlug deviceId apps reportedAt)
                          (.ok ()) }
  | .data .newDate => { desk with clock := desk.clock + t.lag }
  | _ => desk

/-- The surroundings of a fetch. -/
def FetchTry.player (t : FetchTry) : Player appsSig ServiceError Desk :=
  ⟨t.answer, t.next⟩

/-- The fetch, run on the tables. -/
def FetchTry.run (env : AppsEnv) (t : FetchTry) (s : AppsStore) :
    Except ServiceError (List String) × AppsStore :=
  let ended := (fetchAndStoreInstalledApps env t.device t.workspaceSlug).play t.player ⟨s, t.now⟩
  (ended.1, ended.2.store)

/-- The platform in the path of the request; `none` where no request is made. -/
def fetchPath (device : NormalizedDevice) : Option String :=
  if device.id = "" then none else platformPathSegment device.platform

/-- What is collected. -/
def FetchTry.collected (env : AppsEnv) (t : FetchTry) (platformPath : String) : Fetched :=
  if platformPath = "windows" then collectWindows env t.windowsApps
  else collectItems env platformPath t.applications

/-- The time of the data. -/
def storedAt (fetched : Fetched) (existing : Option InstalledAppsEntry) (now : ℕ) : ℕ :=
  if fetched.error = none then now else existing.elim now InstalledAppsEntry.fetchedAt

/-- The entry that is stored over `existing`. -/
def FetchTry.entry (env : AppsEnv) (t : FetchTry) (platformPath : String)
    (existing : Option InstalledAppsEntry) : InstalledAppsEntry :=
  serverFetchEntry env t.device.platform platformPath (t.collected env platformPath) existing
    (storedAt (t.collected env platformPath) existing t.now)

/-! ## One fetch -/

section Fetch

variable {env : AppsEnv} {t : FetchTry} {s : AppsStore} {platformPath : String}

theorem mem_of_platformPathSegment {platform : String}
    (h : platformPathSegment platform = some platformPath) :
    platformPath ∈ ["apple", "android", "aosp", "windows"] := by
  unfold platformPathSegment at h
  split_ifs at h <;> cases h <;> decide

theorem play_fetchApps (desk : Desk) :
    (fetchApps env platformPath t.device.id).play t.player desk =
      (.ok (t.collected env platformPath), desk) := by
  unfold fetchApps FetchTry.collected
  split_ifs with hwindows
  · have happs : (ask (.fetchWindowsDeviceApps t.device.id)).play t.player desk =
        (.ok t.windowsApps, desk) := rfl
    exact Prog.play_bind_ok happs _
  · have hres : (ask (.getApplications (env.orgBase ++ "/mdm/" ++ platformPath ++
        "/enterprise/devices/" ++ t.device.id ++ "/applications"))).play t.player desk =
        (t.applications, desk) := rfl
    exact Prog.play_bind_ok (Prog.play_attempt hres) _

theorem play_fetchedAtOf (fetched : Fetched) (existing : Option InstalledAppsEntry) :
    ∃ clock, (fetchedAtOf fetched existing).play t.player ⟨s, t.now⟩ =
      (.ok (storedAt fetched existing t.now), ⟨s, clock⟩) := by
  unfold fetchedAtOf storedAt
  cases fetched.error with
  | none => exact ⟨_, rfl⟩
  | some error =>
    cases existing with
    | none => exact ⟨_, rfl⟩
    | some existing => exact ⟨_, rfl⟩

theorem run_of_none (h : fetchPath t.device = none) : t.run env s = (.ok [], s) := by
  unfold FetchTry.run fetchAndStoreInstalledApps
  unfold fetchPath at h
  cases hpath : platformPathSegment t.device.platform with
  | none => rfl
  | some platformPath =>
    have hid : t.device.id = "" := by
      by_contra hid
      rw [if_neg hid, hpath] at h
      cases h
    dsimp only
    rw [if_pos (.inl hid)]
    rfl

/-- **Step lemma**: what a fetch leaves. -/
theorem run_eq (h : fetchPath t.device = some platformPath) :
    t.run env s = (.ok (t.collected env platformPath).identifiers,
      { s with
        inventory := update s.inventory t.key (some (.record ((s.record t.key).set
          .serverFetch (t.entry env platformPath (s.record t.key).serverFetch)))) }) := by
  have hid : t.device.id ≠ "" := fun hid => by
    rw [fetchPath, if_pos hid] at h
    cases h
  rw [fetchPath, if_neg hid] at h
  unfold FetchTry.run fetchAndStoreInstalledApps
  rw [h]
  dsimp only
  have hfind : (ask (.findInventory t.workspaceSlug t.device.id)).play t.player ⟨s, t.now⟩ =
      (.ok (s.inventory t.key), ⟨s, t.now⟩) := rfl
  rw [if_neg (not_or.mpr ⟨hid, not_not.mpr (mem_of_platformPathSegment h)⟩),
    Prog.play_bind_ok (play_fetchApps ⟨s, t.now⟩), Prog.play_bind_ok hfind]
  obtain ⟨clock, hclock⟩ := play_fetchedAtOf (t := t) (s := s) (t.collected env platformPath)
    (toRecord (s.inventory t.key)).serverFetch
  rw [Prog.play_bind_ok hclock]
  rfl

theorem record_run (h : fetchPath t.device = some platformPath) :
    (t.run env s).2.record = update s.record t.key ((s.record t.key).set .serverFetch
      (t.entry env platformPath (s.record t.key).serverFetch)) := by
  rw [run_eq h]
  funext key
  by_cases hkey : key = t.key
  · subst hkey
    simp only [AppsStore.record, update_self, toRecord]
  · simp only [AppsStore.record, update_of_ne hkey]

end Fetch

/-! ## Outcomes -/

/-- The entry of a fetch that replaces whatever was there. -/
def FetchTry.fresh (env : AppsEnv) (t : FetchTry) (platformPath : String) : InstalledAppsEntry :=
  t.entry env platformPath none

/-- What a failed fetch leaves of the entry before it. -/
structure Kept (t : FetchTry) (platformPath : String) (existing : Option InstalledAppsEntry)
    (entry : InstalledAppsEntry) : Prop where
  identifiers : entry.identifiers = existing.elim [] InstalledAppsEntry.identifiers
  apps : entry.apps = existing.elim [] InstalledAppsEntry.apps
  fetchedAt : entry.fetchedAt = existing.elim t.now InstalledAppsEntry.fetchedAt
  appleAppUpdates : entry.appleAppUpdates =
    if platformPath = "apple" then existing.bind InstalledAppsEntry.appleAppUpdates else none

/-- Whether a fetch is made and succeeds. -/
def FetchTry.succeeds (env : AppsEnv) (t : FetchTry) : Bool :=
  (fetchPath t.device).any fun platformPath => (t.collected env platformPath).error = none

/-- The tables after a sequence of fetches. -/
def runFetches (env : AppsEnv) (s : AppsStore) (tries : List FetchTry) : AppsStore :=
  tries.foldl (fun s t => (t.run env s).2) s

/-- The last successful fetch for a row. -/
def lastSuccess (env : AppsEnv) (key : String × String) (tries : List FetchTry) :
    Option FetchTry :=
  (tries.filter fun t => t.key = key ∧ t.succeeds env).getLast?

section Outcomes

variable {env : AppsEnv} {t : FetchTry} {s : AppsStore} {platformPath : String}
  {key : String × String} {existing : Option InstalledAppsEntry}

theorem kept_of_failed (h : (t.collected env platformPath).error ≠ none) :
    Kept t platformPath existing (t.entry env platformPath existing) := by
  refine ⟨?_, ?_, ?_, ?_⟩
  · exact if_neg h
  · exact if_neg h
  · exact if_neg h
  · show (if platformPath = "apple" then if _ then _ else _ else _) = _
    rw [if_neg h]

/-- What was there does not show in the entry of a successful fetch. -/
theorem entry_of_succeeded (h : (t.collected env platformPath).error = none) :
    t.entry env platformPath existing = t.fresh env platformPath := by
  simp only [FetchTry.fresh, FetchTry.entry, serverFetchEntry, storedAt, if_pos h]

theorem fresh_fetchedAt (h : (t.collected env platformPath).error = none) :
    (t.fresh env platformPath).fetchedAt = t.now :=
  if_pos h

theorem runFetches_concat (s : AppsStore) (tries : List FetchTry) (t : FetchTry) :
    runFetches env s (tries ++ [t]) = (t.run env (runFetches env s tries)).2 :=
  foldl_concat _ _ _ _

theorem lastSuccess_concat (tries : List FetchTry) (t : FetchTry) :
    lastSuccess env key (tries ++ [t]) =
      if t.key = key ∧ t.succeeds env = true then some t else lastSuccess env key tries := by
  unfold lastSuccess
  rw [filter_append, getLast?_append, filter_singleton]
  split_ifs with h
  · rw [decide_eq_true h]
    rfl
  · rw [decide_eq_false h]
    rfl

/-- The data of `t` and their time are in the slot. -/
def Holds (env : AppsEnv) (s : AppsStore) (key : String × String) (t : FetchTry) : Prop :=
  ∃ platformPath entry, fetchPath t.device = some platformPath ∧
    (s.record key).serverFetch = some entry ∧ entry.fetchedAt = t.now ∧
    entry.identifiers = (t.fresh env platformPath).identifiers ∧
    entry.apps = (t.fresh env platformPath).apps

theorem Holds.run {t' : FetchTry} (h : Holds env s key t)
    (hother : ¬(t'.key = key ∧ t'.succeeds env = true)) : Holds env (t'.run env s).2 key t := by
  cases hpath : fetchPath t'.device with
  | none => rwa [run_of_none hpath]
  | some path =>
    by_cases hkey : t'.key = key
    case neg =>
      rwa [Holds, record_run hpath, update_of_ne (Ne.symm hkey)]
    case pos =>
      have hfailed : (t'.collected env path).error ≠ none := by
        intro hnone
        refine hother ⟨hkey, ?_⟩
        rw [FetchTry.succeeds, hpath, Option.any_some, decide_eq_true hnone]
      obtain ⟨platformPath, entry, hdevice, hentry, hat, hidentifiers, happs⟩ := h
      have hkept : Kept t' path (some entry) (t'.entry env path (some entry)) :=
        kept_of_failed hfailed
      refine ⟨platformPath, t'.entry env path (some entry), hdevice, ?_,
        hkept.fetchedAt.trans hat, hkept.identifiers.trans hidentifiers, hkept.apps.trans happs⟩
      rw [record_run hpath, hkey, update_self, hentry]
      exact get_set _ .serverFetch _

theorem holds_run (h : t.succeeds env = true) : Holds env (t.run env s).2 t.key t := by
  obtain ⟨path, hpath, herror⟩ := (Option.any_eq_true _ _).mp h
  have hnone : (t.collected env path).error = none := of_decide_eq_true herror
  refine ⟨path, t.fresh env path, hpath, ?_, fresh_fetchedAt hnone, rfl, rfl⟩
  rw [record_run hpath, update_self, entry_of_succeeded hnone]
  exact get_set _ .serverFetch _

/-- **Run lemma**: once there was a success, the slot has the data of the last one. -/
theorem holds_lastSuccess (s : AppsStore) (tries : List FetchTry)
    (h : lastSuccess env key tries = some t) : Holds env (runFetches env s tries) key t := by
  induction tries using reverseRecOn with
  | nil => cases h
  | append_singleton tries t' ih =>
    rw [lastSuccess_concat] at h
    rw [runFetches_concat]
    split_ifs at h with hlast
    · cases h
      exact hlast.1 ▸ holds_run hlast.2
    · exact (ih h).run hlast

/-- The other slot, and the rows of other devices, are left alone. -/
theorem selfReported_runFetches (s : AppsStore) (tries : List FetchTry) (key : String × String) :
    ((runFetches env s tries).record key).selfReported = (s.record key).selfReported := by
  induction tries using reverseRecOn with
  | nil => rfl
  | append_singleton tries t ih =>
    rw [runFetches_concat, ← ih]
    cases hpath : fetchPath t.device with
    | none => rw [run_of_none hpath]
    | some path =>
      rw [record_run hpath]
      by_cases hkey : key = t.key
      · rw [hkey, update_self]
        rfl
      · rw [update_of_ne hkey]

end Outcomes

/-- **Outcomes of fetches.** Without an id or a platform with a list nothing is stored. Otherwise
the other rows and the self-reported slot are left alone; the slot of the fetch says what went
wrong, if anything did, and names the platform of the device. A failed fetch keeps the rest, the
updates only for a device of Apple, and a successful one replaces the slot by what it collected.
Over a sequence the slot has the data of the last success and its time. -/
theorem fetch_outcomes (env : AppsEnv) :
    (∀ (t : FetchTry) s, fetchPath t.device = none → t.run env s = (.ok [], s)) ∧
    (∀ (t : FetchTry) s platformPath, fetchPath t.device = some platformPath →
      (∀ key, key ≠ t.key → (t.run env s).2.inventory key = s.inventory key) ∧
      ((t.run env s).2.record t.key).selfReported = (s.record t.key).selfReported ∧
      ∃ entry, ((t.run env s).2.record t.key).serverFetch = some entry ∧
        entry.error = (t.collected env platformPath).error ∧
        entry.platform = t.device.platform ∧ entry.source = .serverFetch ∧
        (entry.error ≠ none → Kept t platformPath (s.record t.key).serverFetch entry) ∧
        (entry.error = none → entry = t.fresh env platformPath ∧ entry.fetchedAt = t.now)) ∧
    (∀ s tries key, ((runFetches env s tries).record key).selfReported =
      (s.record key).selfReported) ∧
    (∀ s tries key t, lastSuccess env key tries = some t →
      Holds env (runFetches env s tries) key t) := by
  refine ⟨fun t s => run_of_none, fun t s path hpath => ⟨fun key hkey => ?_, ?_, ?_⟩,
    selfReported_runFetches, fun s tries key t => holds_lastSuccess s tries⟩
  · rw [run_eq hpath]
    exact update_of_ne hkey _ _
  · exact selfReported_runFetches s [t] t.key
  · refine ⟨t.entry env path (s.record t.key).serverFetch, ?_, rfl, rfl, rfl, kept_of_failed,
      fun hnone => ⟨entry_of_succeeded hnone, if_pos hnone⟩⟩
    rw [record_run hpath, update_self]
    exact get_set _ .serverFetch _

/-! ### A device that is no longer one of Apple -/

/-- What was fetched when the device was one of Apple. -/
def appleEntry : InstalledAppsEntry where
  identifiers := ["com.chat"]
  apps := [{ identifier := "com.chat", version := "1", updateAvailable := some true }]
  platform := "apple"
  fetchedAt := 1
  source := .serverFetch
  appleAppUpdates := some {
    pendingCount := 1
    totalApps := 1
    pendingApps := [⟨some "com.chat", none, some "1", none, false⟩] }

/-- The tables with that entry. -/
def appleStore : AppsStore where
  inventory key := if key = ("acme", "d1") then some (.record { serverFetch := some appleEntry })
    else none
  pending := ∅

/-- A fetch for the device, now one of Android, that Applivery does not answer. -/
def unanswered : FetchTry where
  device := firstDevice
  workspaceSlug := "acme"
  applications := .error (.other "unreachable")
  windowsApps := ⟨[], [], none⟩
  now := 5
  lag := 0

/-- A failed fetch that does more than record what went wrong: the updates are gone, and the
platform is another one. -/
theorem failed_fetch_drops :
    ((unanswered.run plainService appleStore).2.record ("acme", "d1")).serverFetch =
      some { appleEntry with
        error := some "", platform := "android", appleAppUpdates := none } ∧
    ¬∃ error, ((unanswered.run plainService appleStore).2.record ("acme", "d1")).serverFetch =
      some { appleEntry with error } := by
  have hrun : ((unanswered.run plainService appleStore).2.record ("acme", "d1")).serverFetch =
      some { appleEntry with
        error := some "", platform := "android", appleAppUpdates := none } := by
    decide +kernel
  refine ⟨hrun, ?_⟩
  rintro ⟨error, h⟩
  have hplatform : "android" = "apple" :=
    congrArg InstalledAppsEntry.platform (Option.some.inj (hrun.symm.trans h))
  exact absurd hplatform (by decide)

end AppliverySoar.AppLists
