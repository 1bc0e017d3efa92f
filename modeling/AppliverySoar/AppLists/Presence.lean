import AppliverySoar.AppLists.Slots
import AppliverySoar.Compliance.Operators

/-!
# App lists and the inventory of a device

What `requiredAppList` and `disallowedAppList` (complianceEvaluate.ts, lines
303–359) answer over the identifiers that `readInstalledAppsFromStore`
(installedApps.service.ts, lines 148–156) finds in the two slots, and what the
reports and fetches that filled them listed.

Results:
* `mem_identifiers_run`: the identifiers of a slot are those of its latest
  successful report or fetch, apps reported as removed among them.
* `meets_fetchAndStoreInstalledApps`, `meets_reportDeviceApps`: a fetch and a report
  leave what `ingest` says.
* `listed_answers`: the answers are about the apps that are listed, removed or not.
* `appLists_exact`: they are the right ones exactly where removed apps make no
  difference.
* `appLists_removed`: a list of one app that has been removed.
-/

namespace AppliverySoar.AppLists

open Async Prog Js Compliance Workflows List Function
open DeviceData (DeviceAppReportPayload appsEntry)

/-! ## The identifiers of a device -/

/-- `installedAppsRecordEntries`. -/
def InstalledAppsRecord.entries (record : InstalledAppsRecord) : List InstalledAppsEntry :=
  record.selfReported.toList ++ record.serverFetch.toList

/-- `readInstalledAppsFromStore`, from the row of the device. -/
def readInstalledApps (row : Option StoredApps) : Option (List String) :=
  match row with
  | none => none
  | some apps =>
    let entries := (toRecord (some apps)).entries
    if entries = [] then none else some (entries.flatMap InstalledAppsEntry.identifiers)

/-! ## What is listed -/

/-- An app that a report or a response lists, by its identifier. -/
structure ListedApp where
  ident : String
  removed : Bool := false
  deriving DecidableEq

/-- What the calls to Applivery of one fetch are answered. -/
inductive FetchAnswer
  | windows (apps : WindowsApps)
  | items (platformPath : String) (res : Except ServiceError AppsResponse)

/-- What reaches the slots of a device. -/
inductive Ingestion
  | report (payload : DeviceAppReportPayload) (nowIso : ℕ)
  | fetch (platform : String) (answer : FetchAnswer) (fetchedAt : ℕ)

/-- The path that the fetch is for. -/
def FetchAnswer.platformPath : FetchAnswer → String
  | .windows _ => "windows"
  | .items platformPath _ => platformPath

/-- What a fetch collects. -/
def FetchAnswer.collect (env : AppsEnv) : FetchAnswer → Fetched
  | .windows apps => collectWindows env apps
  | .items platformPath res => collectItems env platformPath res

/-- The record that is left. -/
def ingest (env : AppsEnv) (record : InstalledAppsRecord) : Ingestion → InstalledAppsRecord
  | .report payload nowIso =>
    record.set .selfReported (ofReport (appsEntry env.runtime env.collation payload nowIso))
  | .fetch platform answer fetchedAt =>
    record.set .serverFetch (serverFetchEntry env platform answer.platformPath (answer.collect env)
      record.serverFetch fetchedAt)

/-- The app of an item. -/
def AppItem.listed (env : AppsEnv) (platformPath : String) (item : AppItem) : Option ListedApp :=
  if platformPath = "apple" then
    (truthy (item.Identifier <|> item.identifier)).map fun ident =>
      ⟨env.runtime.toLowerCase ident, false⟩
  else
    (truthy item.packageName).map fun ident =>
      ⟨env.runtime.toLowerCase ident, item.state = some "REMOVED"⟩

/-- The apps that an answer lists; `none` for a fetch that failed. -/
def FetchAnswer.listing (env : AppsEnv) : FetchAnswer → Option (List ListedApp)
  | .windows apps =>
    match apps.error with
    | some _ => none
    | none => some ((apps.msiApps.map fun app => ⟨env.runtime.toLowerCase app.name, false⟩) ++
        apps.storeApps.map fun app => ⟨env.runtime.toLowerCase app.name, false⟩)
  | .items platformPath (.ok res) =>
    if res.status < 300 then
      some (res.items.filterMap fun item => item.bind (AppItem.listed env platformPath))
    else none
  | .items _ (.error _) => none

/-- The apps that reach a slot; `none` for another slot and for a failed fetch. -/
def Ingestion.listing (env : AppsEnv) (slot : Slot) : Ingestion → Option (List ListedApp)
  | .report payload _ =>
    match slot with
    | .selfReported => some (payload.apps.filterMap fun a =>
        (truthy a.identifier).map fun ident => ⟨env.runtime.toLowerCase ident, false⟩)
    | .serverFetch => none
  | .fetch _ answer _ =>
    match slot with
    | .selfReported => none
    | .serverFetch => answer.listing env

/-- What the latest successful report or fetch of a slot lists. -/
def latest (env : AppsEnv) (slot : Slot) (history : List Ingestion) : List ListedApp :=
  ((history.filterMap (Ingestion.listing env slot)).getLast?).getD []

/-- The record after a history. -/
def run (env : AppsEnv) (history : List Ingestion) : InstalledAppsRecord :=
  history.foldl (ingest env) {}

/-! ## What a fetch collects -/

section Collect

variable {env : AppsEnv} {x : String}

theorem mem_addIdentifier {identifiers : List String} {identifier : String} :
    x ∈ addIdentifier identifiers identifier ↔ x ∈ identifiers ∨ x = identifier := by
  unfold addIdentifier
  split_ifs with h
  · exact ⟨.inl, fun hx => hx.elim id fun heq => heq ▸ h⟩
  · rw [mem_append, mem_singleton]

theorem identifiers_pushVersioned (ident version name : Option String)
    (updateAvailable : Option Bool) (fetched : Fetched) :
    (pushVersioned env ident version name updateAvailable fetched).identifiers =
      fetched.identifiers := by
  unfold pushVersioned
  split <;> rfl

variable {fetched : Fetched}

theorem mem_noteIdentifier {ident : Option String} :
    x ∈ (noteIdentifier env ident fetched).identifiers ↔
      x ∈ fetched.identifiers ∨ ∃ i, truthy ident = some i ∧ x = env.runtime.toLowerCase i := by
  unfold noteIdentifier
  cases truthy ident with
  | none =>
    exact ⟨.inl, fun h => h.elim id fun ⟨i, hi, _⟩ => absurd hi (Option.some_ne_none i).symm⟩
  | some i =>
    rw [mem_addIdentifier]
    refine or_congr_right ⟨fun h => ⟨i, rfl, h⟩, fun ⟨i', hi', h⟩ => ?_⟩
    rw [Option.some.inj hi', h]

variable {platformPath : String}

/-- An item adds the identifier of its app, also of one that has been removed. -/
theorem mem_addItem {item : Option AppItem} :
    x ∈ (addItem env platformPath fetched item).identifiers ↔
      x ∈ fetched.identifiers ∨
        ∃ l, item.bind (AppItem.listed env platformPath) = some l ∧ l.ident = x := by
  cases item with
  | none =>
    exact ⟨.inl, fun h => h.elim id fun ⟨l, hl, _⟩ => absurd hl (Option.some_ne_none l).symm⟩
  | some item =>
    show x ∈ (if platformPath = "apple" then addAppleItem env fetched item
      else addAndroidItem env fetched item).identifiers ↔ _
    rw [Option.bind_some, AppItem.listed]
    split_ifs with hpath
    · unfold addAppleItem
      dsimp only
      rw [mem_noteIdentifier, identifiers_pushVersioned]
      refine or_congr ?_ ?_
      · split_ifs <;> exact Iff.rfl
      · simp only [Option.map_eq_some_iff]
        exact ⟨fun ⟨i, hi, h⟩ => ⟨_, ⟨i, hi, rfl⟩, h.symm⟩, fun ⟨l, ⟨i, hi, hl⟩, h⟩ =>
          ⟨i, hi, by rw [← h, ← hl]⟩⟩
    · unfold addAndroidItem
      dsimp only
      rw [mem_noteIdentifier]
      refine or_congr ?_ ?_
      · split_ifs with hstate
        · rw [identifiers_pushVersioned]
        · exact Iff.rfl
      · simp only [Option.map_eq_some_iff]
        exact ⟨fun ⟨i, hi, h⟩ => ⟨_, ⟨i, hi, rfl⟩, h.symm⟩, fun ⟨l, ⟨i, hi, hl⟩, h⟩ =>
          ⟨i, hi, by rw [← h, ← hl]⟩⟩

theorem mem_foldl_addItem (items : List (Option AppItem))
    (fetched : Fetched) :
    x ∈ (items.foldl (addItem env platformPath) fetched).identifiers ↔
      x ∈ fetched.identifiers ∨
        ∃ l ∈ items.filterMap fun item => item.bind (AppItem.listed env platformPath),
          l.ident = x := by
  induction items generalizing fetched with
  | nil => simp
  | cons item items ih =>
    rw [foldl_cons, ih, mem_addItem, or_assoc]
    refine or_congr_right ?_
    simp only [mem_filterMap, mem_cons]
    constructor
    · rintro (⟨l, hl, hx⟩ | ⟨l, ⟨item', hmem, hl⟩, hx⟩)
      · exact ⟨l, ⟨item, .inl rfl, hl⟩, hx⟩
      · exact ⟨l, ⟨item', .inr hmem, hl⟩, hx⟩
    · rintro ⟨l, ⟨item', rfl | hmem, hl⟩, hx⟩
      · exact .inl ⟨l, hl, hx⟩
      · exact .inr ⟨l, ⟨item', hmem, hl⟩, hx⟩

theorem mem_foldl_addMsiApp (apps : List WindowsMsiApp) (fetched : Fetched) :
    x ∈ (apps.foldl (addMsiApp env) fetched).identifiers ↔
      x ∈ fetched.identifiers ∨ ∃ app ∈ apps, env.runtime.toLowerCase app.name = x := by
  induction apps generalizing fetched with
  | nil => simp
  | cons app apps ih =>
    rw [foldl_cons, ih]
    show x ∈ addIdentifier fetched.identifiers _ ∨ _ ↔ _
    rw [mem_addIdentifier, or_assoc, exists_mem_cons_iff, eq_comm (a := x)]

theorem mem_addStoreApp {app : WindowsStoreApp} :
    x ∈ (addStoreApp env fetched app).identifiers ↔
      x ∈ fetched.identifiers ∨ env.runtime.toLowerCase app.name = x := by
  unfold addStoreApp
  dsimp only
  split_ifs with h
  · exact ⟨.inl, fun hx => hx.elim id fun heq => heq ▸ h⟩
  · show x ∈ addIdentifier fetched.identifiers _ ↔ _
    rw [mem_addIdentifier, eq_comm (a := x)]

theorem mem_foldl_addStoreApp (apps : List WindowsStoreApp) (fetched : Fetched) :
    x ∈ (apps.foldl (addStoreApp env) fetched).identifiers ↔
      x ∈ fetched.identifiers ∨ ∃ app ∈ apps, env.runtime.toLowerCase app.name = x := by
  induction apps generalizing fetched with
  | nil => simp
  | cons app apps ih =>
    rw [foldl_cons, ih, mem_addStoreApp, or_assoc, exists_mem_cons_iff]

theorem error_addItem (platformPath : String) (fetched : Fetched) (item : Option AppItem) :
    (addItem env platformPath fetched item).error = fetched.error := by
  have hnote : ∀ ident fetched, (noteIdentifier env ident fetched).error = fetched.error := by
    intro ident fetched
    unfold noteIdentifier
    split <;> rfl
  have hpush : ∀ ident version name updateAvailable fetched,
      (pushVersioned env ident version name updateAvailable fetched).error = fetched.error := by
    intro ident version name updateAvailable fetched
    unfold pushVersioned
    split <;> rfl
  unfold addItem
  split
  · rfl
  · unfold addAppleItem addAndroidItem
    dsimp only
    split_ifs <;> simp only [hnote, hpush]

theorem error_addStoreApp (fetched : Fetched) (app : WindowsStoreApp) :
    (addStoreApp env fetched app).error = fetched.error := by
  unfold addStoreApp
  dsimp only
  split <;> rfl

theorem error_foldl {β : Type} {f : Fetched → β → Fetched}
    (hf : ∀ fetched b, (f fetched b).error = fetched.error) (l : List β) (fetched : Fetched) :
    (l.foldl f fetched).error = fetched.error := by
  induction l generalizing fetched with
  | nil => rfl
  | cons b l ih => rw [foldl_cons, ih, hf]

theorem error_collectWindows (apps : WindowsApps) :
    (collectWindows env apps).error = apps.error := by
  rw [collectWindows, error_foldl error_addStoreApp,
    error_foldl (f := addMsiApp env) fun _ _ => rfl]

variable {answer : FetchAnswer}

/-- The identifiers of a response are those of the apps that it lists. -/
theorem collect_of_listing {l : List ListedApp}
    (h : answer.listing env = some l) : (answer.collect env).error = none ∧
      ∀ x, x ∈ (answer.collect env).identifiers ↔ ∃ a ∈ l, a.ident = x := by
  cases answer with
  | windows apps =>
    cases herror : apps.error with
    | some e => simp only [FetchAnswer.listing, herror, reduceCtorEq] at h
    | none =>
      simp only [FetchAnswer.listing, herror, Option.some.injEq] at h
      subst h
      refine ⟨(error_collectWindows apps).trans herror, fun x => ?_⟩
      show x ∈ (collectWindows env apps).identifiers ↔ _
      rw [collectWindows, mem_foldl_addStoreApp, mem_foldl_addMsiApp]
      simp [or_and_right, exists_or]
  | items platformPath res =>
    cases res with
    | error e => cases h
    | ok res =>
      simp only [FetchAnswer.listing] at h
      split_ifs at h with hstatus
      cases h
      simp only [FetchAnswer.collect, collectItems, if_pos hstatus]
      refine ⟨error_foldl (error_addItem platformPath) _ _, fun x => ?_⟩
      rw [mem_foldl_addItem]
      simp

theorem collect_failed (h : answer.listing env = none) : (answer.collect env).error ≠ none := by
  cases answer with
  | windows apps =>
    cases herror : apps.error with
    | none => simp only [FetchAnswer.listing, herror, reduceCtorEq] at h
    | some e =>
      show (collectWindows env apps).error ≠ none
      rw [error_collectWindows, herror]
      exact Option.some_ne_none e
  | items platformPath res =>
    cases res with
    | error e => exact Option.some_ne_none _
    | ok res =>
      simp only [FetchAnswer.listing] at h
      split_ifs at h with hstatus
      simp only [FetchAnswer.collect, collectItems, if_neg hstatus]
      exact Option.some_ne_none _

/-! ## The identifiers of a slot -/

/-- The identifiers of a slot. -/
def InstalledAppsRecord.identifiers (record : InstalledAppsRecord) (slot : Slot) : List String :=
  (record.get slot).elim [] InstalledAppsEntry.identifiers

variable {record : InstalledAppsRecord} {i : Ingestion} {slot : Slot} {l : List ListedApp}
  {history : List Ingestion}

theorem mem_ingest_of_listing (h : i.listing env slot = some l) :
    x ∈ (ingest env record i).identifiers slot ↔ ∃ a ∈ l, a.ident = x := by
  cases i with
  | report payload nowIso =>
    cases slot with
    | serverFetch => cases h
    | selfReported =>
      cases h
      show x ∈ ((payload.apps.filterMap fun a => (truthy a.identifier).map
        env.runtime.toLowerCase).eraseDups).mergeSort env.collation.unitsLe ↔ _
      simp [and_assoc]
  | fetch platform answer fetchedAt =>
    cases slot with
    | selfReported => cases h
    | serverFetch =>
      obtain ⟨herror, hmem⟩ := collect_of_listing (show answer.listing env = some l from h)
      rw [← hmem]
      show x ∈ (if (answer.collect env).error = none then
        (answer.collect env).identifiers.mergeSort env.collation.unitsLe else _) ↔ _
      rw [if_pos herror, mem_mergeSort]

/-- A failed fetch keeps the identifiers, and the other slot is left alone. -/
theorem mem_ingest_of_none (h : i.listing env slot = none) :
    x ∈ (ingest env record i).identifiers slot ↔ x ∈ record.identifiers slot := by
  cases i with
  | report payload nowIso =>
    cases slot with
    | selfReported => cases h
    | serverFetch => exact Iff.rfl
  | fetch platform answer fetchedAt =>
    cases slot with
    | selfReported => exact Iff.rfl
    | serverFetch =>
      show x ∈ (if (answer.collect env).error = none then
        (answer.collect env).identifiers.mergeSort env.collation.unitsLe
        else record.serverFetch.elim [] InstalledAppsEntry.identifiers) ↔ _
      rw [if_neg (collect_failed h)]
      exact Iff.rfl

theorem latest_concat (history : List Ingestion) (i : Ingestion) :
    latest env slot (history ++ [i]) = (i.listing env slot).getD (latest env slot history) := by
  unfold latest
  rw [filterMap_append, getLast?_append]
  cases hl : i.listing env slot <;> simp [hl]

/-- The identifiers of a slot are those of its latest successful report or fetch. -/
theorem mem_identifiers_run (slot : Slot) (history : List Ingestion) :
    x ∈ (run env history).identifiers slot ↔ ∃ a ∈ latest env slot history, a.ident = x := by
  induction history using reverseRecOn with
  | nil =>
    refine ⟨fun h => ?_, fun ⟨a, ha, _⟩ => absurd ha not_mem_nil⟩
    cases slot <;> exact absurd h not_mem_nil
  | append_singleton history i ih =>
    rw [latest_concat, show run env (history ++ [i]) = ingest env (run env history) i from
      foldl_concat _ _ _ _]
    cases hl : i.listing env slot with
    | some l => rw [mem_ingest_of_listing hl, Option.getD_some]
    | none => rw [mem_ingest_of_none hl, ih, Option.getD_none]

theorem entries_run_ne_nil (h : history ≠ []) :
    (run env history).entries ≠ [] := by
  obtain ⟨before, i, rfl⟩ := (eq_nil_or_concat' history).resolve_left h
  rw [show run env (before ++ [i]) = ingest env (run env before) i from foldl_concat _ _ _ _]
  cases i with
  | report => exact cons_ne_nil _ _
  | fetch => exact append_ne_nil_of_right_ne_nil _ (cons_ne_nil _ _)

theorem exists_slot {p : Slot → Prop} : (∃ slot, p slot) ↔ p .selfReported ∨ p .serverFetch := by
  constructor
  · rintro ⟨_ | _, h⟩
    · exact .inl h
    · exact .inr h
  · rintro (h | h)
    · exact ⟨_, h⟩
    · exact ⟨_, h⟩

theorem flatMap_toList (entry : Option InstalledAppsEntry) :
    entry.toList.flatMap InstalledAppsEntry.identifiers =
      entry.elim [] InstalledAppsEntry.identifiers := by
  cases entry with
  | none => rfl
  | some entry => exact append_nil _

theorem readInstalledApps_run {row : StoredApps}
    (hrow : toRecord (some row) = run env history) (h : history ≠ []) :
    ∃ installed, readInstalledApps (some row) = some installed ∧
      ∀ x, x ∈ installed ↔ ∃ slot, ∃ a ∈ latest env slot history, a.ident = x := by
  refine ⟨(run env history).entries.flatMap InstalledAppsEntry.identifiers, ?_, fun x => ?_⟩
  · unfold readInstalledApps
    dsimp only
    rw [hrow, if_neg (entries_run_ne_nil h)]
  · rw [InstalledAppsRecord.entries, flatMap_append, mem_append, flatMap_toList,
      flatMap_toList, exists_slot]
    exact or_congr (mem_identifiers_run .selfReported history)
      (mem_identifiers_run .serverFetch history)

end Collect

/-! ## What the functions leave -/

section Leaves

variable {env : AppsEnv} {s : AppsStore}

theorem record_upsertInventory (s : AppsStore) (slug deviceId : String)
    (record : InstalledAppsRecord) (reportedAt : ℕ) (r : Except ServiceError Unit) :
    (s.next (.upsertInventory slug deviceId record reportedAt) r).record =
      match r with
      | .ok _ => update s.record (slug, deviceId) record | .error _ => s.record := by
  cases r with
  | error e => rfl
  | ok u =>
    funext key
    by_cases hkey : key = (slug, deviceId)
    · subst hkey
      simp [AppsStore.record, AppsStore.next, toRecord]
    · simp [AppsStore.record, AppsStore.next, update_of_ne hkey]

/-- The record of a device is what it was, or `record`. -/
def LeavesRecord (s : AppsStore) (key : String × String) (record : InstalledAppsRecord)
    (s' : AppsStore) : Prop :=
  s'.record = s.record ∨ s'.record = Function.update s.record key record

theorem meets_upsertInstalledAppsSlot (slug deviceId : String) (slot : Slot)
    (entry : InstalledAppsEntry) (reportedAt : ℕ) :
    (upsertInstalledAppsSlot slug deviceId slot entry reportedAt).Meets appsWorld
      (fun _ _ => True) s fun _ => LeavesRecord s (slug, deviceId)
        ((s.record (slug, deviceId)).set slot entry) := by
  refine Meets.call_bind trivial (fun _ _ => .inl rfl) fun found hfound => ?_
  refine ⟨trivial, fun r _ => ?_⟩
  have hrecord : toRecord found = s.record (slug, deviceId) := congrArg toRecord hfound
  show LeavesRecord s _ _ (s.next (.upsertInventory slug deviceId _ reportedAt) r)
  rw [hrecord, LeavesRecord, record_upsertInventory]
  cases r with
  | ok u => exact .inr rfl
  | error e => exact .inl rfl

/-- A report leaves what it makes of the record of the device that it is matched
to, if there is one. -/
theorem meets_reportDeviceApps (slug : String) (payload : DeviceAppReportPayload) :
    (reportDeviceApps env slug payload).Meets appsWorld (fun _ _ => True) s
      fun _ s' => s'.record = s.record ∨ ∃ deviceId nowIso,
        s'.record = update s.record (slug, deviceId)
          (ingest env (s.record (slug, deviceId)) (.report payload nowIso)) := by
  rw [reportDeviceApps_eq]
  split
  · exact .inl rfl
  · refine Meets.call_bind trivial (fun _ _ => .inl rfl) fun nowIso _ => ?_
    refine Meets.call_bind trivial (fun _ _ => .inl rfl) fun matched _ => ?_
    refine Meets.bind (R := fun _ s' => s'.record = s.record ∨ ∃ deviceId nowIso,
      s'.record = update s.record (slug, deviceId)
        (ingest env (s.record (slug, deviceId)) (.report payload nowIso)))
      ?_ fun flag s' hs' => ?_
    · cases truthy (matched.map DeviceData.DeviceEntry.id) with
      | none =>
        exact Meets.call_bind trivial (fun _ _ => .inl rfl) fun _ _ => .inl rfl
      | some deviceId =>
        refine Meets.bind (R := fun _ s' => s'.record = s.record ∨ ∃ deviceId nowIso,
          s'.record = update s.record (slug, deviceId)
            (ingest env (s.record (slug, deviceId)) (.report payload nowIso)))
          ((meets_upsertInstalledAppsSlot slug deviceId .selfReported _ nowIso).mono
            fun r s' h => ?_) fun _ s' hs' => ?_
        · cases r with
          | ok u => exact h.imp_right fun h => ⟨deviceId, nowIso, h⟩
          | error e => exact h.imp_right fun h => ⟨deviceId, nowIso, h⟩
        · refine Meets.call_bind trivial (fun _ _ => hs') fun _ _ => ?_
          exact Meets.call_bind trivial (fun _ _ => hs') fun _ _ => hs'
    · exact Meets.call_bind trivial (fun _ _ => hs') fun _ _ => hs'

end Leaves

/-! ## What the conditions answer -/

/-- The condition on the list, for a device with this row. -/
def listMatches (eval : EvalEnv) (core : DeviceCore) (facts : List (String × Value))
    (row : Option StoredApps) (lists : AppListsContext) (field operator list : String) : Bool :=
  evaluateWithContext eval core
    ((conditionEvaluator eval).attachApps facts (readInstalledApps row)) field
    ⟨operator, .str list⟩ (some lists) none

/-- The identifier is one of those that an entry of the catalog goes by. -/
def Names (eval : EvalEnv) (e : CatalogEntry) (ident : String) : Prop :=
  ident = eval.toLowerCase e.identifier ∨
    ident = stripPackageFamilySuffix (eval.toLowerCase e.identifier) ∨
    ∃ name, truthy e.name = some name ∧ ident = eval.toLowerCase name

/-- Some slot's latest successful report or fetch lists the app. -/
def Listed (env : AppsEnv) (eval : EvalEnv) (history : List Ingestion) (e : CatalogEntry) : Prop :=
  ∃ slot, ∃ a ∈ latest env slot history, Names eval e a.ident

/-- Some slot's latest successful report or fetch lists the app as present. -/
def Installed (env : AppsEnv) (eval : EvalEnv) (history : List Ingestion) (e : CatalogEntry) :
    Prop :=
  ∃ slot, ∃ a ∈ latest env slot history, a.removed = false ∧ Names eval e a.ident

/-- The answers on a list of these entries are the ones that they ask for. -/
structure ListAnswers (env : AppsEnv) (eval : EvalEnv) (history : List Ingestion)
    (entries : List CatalogEntry) (required disallowed : Bool) : Prop where
  missing : required = true ↔ ∃ e ∈ entries, ¬Installed env eval history e
  present : disallowed = true ↔ ∃ e ∈ entries, Installed env eval history e
  complementary : entries.length = 1 → required = !disallowed

/-- An app that is listed, and never as present, makes no difference. -/
def RemovedHarmless (env : AppsEnv) (eval : EvalEnv) (history : List Ingestion)
    (entries : List CatalogEntry) : Prop :=
  (∃ e ∈ entries, Listed env eval history e ∧ ¬Installed env eval history e) →
    (∃ e ∈ entries, Installed env eval history e) ∧ ∃ e ∈ entries, ¬Listed env eval history e

section Matches

variable {env : AppsEnv} {eval : EvalEnv} {history : List Ingestion} {entries : List CatalogEntry}
  {installed : List String}

variable {e : CatalogEntry}

theorem isPresent_eq_true :
    isPresent eval installed e = true ↔ ∃ ident ∈ installed, Names eval e ident := by
  have hname : (e.name.any fun name => name ≠ "" && installed.contains (eval.toLowerCase name)) =
      true ↔ ∃ name, truthy e.name = some name ∧ eval.toLowerCase name ∈ installed := by
    cases e.name with
    | none => simp [truthy]
    | some name => simp [truthy, Option.filter_eq_some_iff]
  unfold isPresent
  rw [Bool.or_eq_true, Bool.or_eq_true, hname, contains_iff_mem, contains_iff_mem]
  constructor
  · rintro ((h | h) | ⟨name, hname, h⟩)
    · exact ⟨_, h, .inl rfl⟩
    · exact ⟨_, h, .inr (.inl rfl)⟩
    · exact ⟨_, h, .inr (.inr ⟨name, hname, rfl⟩)⟩
  · rintro ⟨ident, h, rfl | rfl | ⟨name, hname, rfl⟩⟩
    · exact .inl (.inl h)
    · exact .inl (.inr h)
    · exact .inr ⟨name, hname, h⟩

theorem Installed.listed (h : Installed env eval history e) : Listed env eval history e := by
  obtain ⟨slot, a, ha, -, hnames⟩ := h
  exact ⟨slot, a, ha, hnames⟩

variable {row : StoredApps} {lists : AppListsContext} {appIds : List String} {list : String}

/-- What the two conditions answer: `p` is what makes an app present to them. -/
theorem listMatches_eq (eval : EvalEnv) (core : DeviceCore) (facts : List (String × Value))
    (operator : String)
    (hlist : list ≠ "") (hids : lists.listById list = some appIds)
    (hentries : appIds.map lists.catalogById = entries.map some)
    (hknown : ∀ e ∈ entries, e.identifier ≠ "") (hne : entries ≠ [])
    (hread : readInstalledApps (some row) = some installed) :
    listMatches eval core facts (some row) lists "requiredAppList" operator list =
        !entries.all (isPresent eval installed) ∧
      listMatches eval core facts (some row) lists "disallowedAppList" operator list =
        entries.any (isPresent eval installed) := by
  have hcatalog : (appIds.filterMap fun id =>
      (lists.catalogById id).filter fun e => e.identifier ≠ "") = entries := by
    have hfilter : appIds.filterMap (fun id =>
        (lists.catalogById id).filter fun e => e.identifier ≠ "") =
        (appIds.map lists.catalogById).filterMap fun found =>
          found.filter fun e => e.identifier ≠ "" := by
      rw [filterMap_map]
      rfl
    rw [hfilter, hentries, filterMap_map]
    refine (filterMap_congr fun e he => ?_).trans filterMap_some
    simp [Option.filter, hknown e he]
  have happs : deviceProperty eval core
      ((conditionEvaluator eval).attachApps facts (readInstalledApps (some row))) "installedApps" =
      .set installed := by
    rw [hread]
    exact congrFun (deviceProperty_attach core facts (.set installed)) "installedApps"
  have hcheck : ∀ required, evaluateAppList eval required (.set installed) (some lists)
      (.str list) = if required then !entries.all (isPresent eval installed)
        else entries.any (isPresent eval installed) := by
    intro required
    unfold evaluateAppList
    dsimp only
    rw [show (Value.str list).text eval.toRuntime = list from rfl, hids, Option.any_some, hcatalog,
      show (Value.str list).truthy = true by simpa [Value.truthy] using hlist]
    simp [hne]
  constructor
  · show evaluateAppList eval true (deviceProperty eval core _ "installedApps") (some lists)
      (.str list) = _
    rw [happs, hcheck, if_pos rfl]
  · show evaluateAppList eval false (deviceProperty eval core _ "installedApps") (some lists)
      (.str list) = _
    rw [happs, hcheck, if_neg Bool.false_ne_true]

/-- The conditions take the apps that are listed for the ones that are present. -/
theorem listed_answers (eval : EvalEnv) (core : DeviceCore) (facts : List (String × Value))
    (operator : String)
    (hlist : list ≠ "") (hids : lists.listById list = some appIds)
    (hentries : appIds.map lists.catalogById = entries.map some)
    (hknown : ∀ e ∈ entries, e.identifier ≠ "") (hne : entries ≠ []) (hhistory : history ≠ [])
    (hrow : toRecord (some row) = run env history) :
    (listMatches eval core facts (some row) lists "requiredAppList" operator list = true ↔
        ∃ e ∈ entries, ¬Listed env eval history e) ∧
      (listMatches eval core facts (some row) lists "disallowedAppList" operator list = true ↔
        ∃ e ∈ entries, Listed env eval history e) ∧
      (entries.length = 1 →
        listMatches eval core facts (some row) lists "requiredAppList" operator list =
          !listMatches eval core facts (some row) lists "disallowedAppList" operator list) := by
  obtain ⟨installed, hread, hinstalled⟩ := readInstalledApps_run hrow hhistory
  obtain ⟨hrequired, hdisallowed⟩ :=
    listMatches_eq eval core facts operator hlist hids hentries hknown hne hread
  have hpresent : ∀ e, isPresent eval installed e = true ↔ Listed env eval history e := by
    intro e
    rw [isPresent_eq_true]
    constructor
    · rintro ⟨ident, hmem, hnames⟩
      obtain ⟨slot, a, ha, rfl⟩ := (hinstalled ident).mp hmem
      exact ⟨slot, a, ha, hnames⟩
    · rintro ⟨slot, a, ha, hnames⟩
      exact ⟨a.ident, (hinstalled _).mpr ⟨slot, a, ha, rfl⟩, hnames⟩
  rw [hrequired, hdisallowed]
  refine ⟨?_, ?_, fun hone => ?_⟩
  · rw [Bool.not_eq_true', ← Bool.not_eq_true, all_eq_true]
    simp only [hpresent, not_forall, exists_prop]
  · rw [any_eq_true]
    simp only [hpresent]
  · obtain ⟨e, rfl⟩ := length_eq_one_iff.mp hone
    simp

end Matches

/-- The two conditions on a list are right exactly where the removed apps make no
difference. -/
theorem appLists_exact (env : AppsEnv) (eval : EvalEnv) (core : DeviceCore)
    (facts : List (String × Value)) (row : StoredApps) (history : List Ingestion)
    (lists : AppListsContext) (operator list : String) (appIds : List String)
    (entries : List CatalogEntry) (hlist : list ≠ "") (hids : lists.listById list = some appIds)
    (hentries : appIds.map lists.catalogById = entries.map some)
    (hknown : ∀ e ∈ entries, e.identifier ≠ "") (hne : entries ≠ []) (hhistory : history ≠ [])
    (hrow : toRecord (some row) = run env history) :
    ListAnswers env eval history entries
        (listMatches eval core facts (some row) lists "requiredAppList" operator list)
        (listMatches eval core facts (some row) lists "disallowedAppList" operator list) ↔
      RemovedHarmless env eval history entries := by
  obtain ⟨hrequired, hdisallowed, hone⟩ := listed_answers eval core facts operator hlist
    hids hentries hknown hne hhistory hrow
  constructor
  · rintro ⟨hmissing, hpresent, -⟩ ⟨e, he, hlisted, hnot⟩
    exact ⟨hpresent.mp (hdisallowed.mpr ⟨e, he, hlisted⟩),
      hrequired.mp (hmissing.mpr ⟨e, he, hnot⟩)⟩
  · intro h
    refine ⟨hrequired.trans ⟨fun ⟨e, he, hnot⟩ => ⟨e, he, fun hin => hnot hin.listed⟩, ?_⟩,
      hdisallowed.trans ⟨?_, fun ⟨e, he, hin⟩ => ⟨e, he, hin.listed⟩⟩, hone⟩
    · rintro ⟨e, he, hnot⟩
      by_cases hlisted : Listed env eval history e
      · exact (h ⟨e, he, hlisted, hnot⟩).2
      · exact ⟨e, he, hlisted⟩
    · rintro ⟨e, he, hlisted⟩
      by_cases hin : Installed env eval history e
      · exact ⟨e, he, hin⟩
      · exact (h ⟨e, he, hlisted, hin⟩).1

/-! ## A removed app -/

/-- A deployment that writes identifiers as they are. -/
def presenceService : AppsEnv where
  runtime := fractionEnv.toRuntime
  collation := ⟨fun _ _ => true, fun _ _ => true⟩
  orgBase := ""
  errorText _ := ""

/-- The app of the list. -/
def mailEntry : CatalogEntry where
  identifier := "com.mail"
  name := none

/-- A list of the one app. -/
def mailList : AppListsContext where
  catalogById id := if id = "a1" then some mailEntry else none
  listById id := if id = "l1" then some ["a1"] else none

/-- A fetch for a device of Android that finds the app in this state. -/
def mailFetched (state : String) : List Ingestion :=
  [.fetch "android" (.items "android" (.ok ⟨200, [some {
    packageName := some "com.mail", state := some state, versionName := some "1" }]⟩)) 1]

/-- The row that is left. -/
def mailRow (state : String) : StoredApps :=
  .record (run presenceService (mailFetched state))

theorem appLists_exact_mail :
    ListAnswers presenceService fractionEnv (mailFetched "INSTALLED") [mailEntry]
      (listMatches fractionEnv (bareDevice []).core [] (some (mailRow "INSTALLED")) mailList
        "requiredAppList" "equals" "l1")
      (listMatches fractionEnv (bareDevice []).core [] (some (mailRow "INSTALLED")) mailList
        "disallowedAppList" "equals" "l1") := by
  refine (appLists_exact presenceService fractionEnv (bareDevice []).core [] (mailRow "INSTALLED")
    (mailFetched "INSTALLED") mailList "equals" "l1" ["a1"] [mailEntry] (by decide) rfl rfl
    (by decide) (cons_ne_nil _ _) (cons_ne_nil _ _) rfl).mpr ?_
  rintro ⟨e, he, -, hnot⟩
  obtain rfl := mem_singleton.mp he
  exact absurd ⟨.serverFetch, ⟨"com.mail", false⟩, by decide +kernel, rfl, .inl (by decide +kernel)⟩
    hnot

/-- An app that was removed counts as installed. -/
theorem appLists_removed :
    (∀ slot, ∀ a ∈ latest presenceService slot (mailFetched "REMOVED"), a.removed = true) ∧
      ¬ListAnswers presenceService fractionEnv (mailFetched "REMOVED") [mailEntry]
        (listMatches fractionEnv (bareDevice []).core [] (some (mailRow "REMOVED")) mailList
          "requiredAppList" "equals" "l1")
        (listMatches fractionEnv (bareDevice []).core [] (some (mailRow "REMOVED")) mailList
          "disallowedAppList" "equals" "l1") := by
  have hremoved : ∀ slot, ∀ a ∈ latest presenceService slot (mailFetched "REMOVED"),
      a.removed = true := by
    intro slot
    cases slot <;> decide +kernel
  have hentries : (["a1"] : List String).map mailList.catalogById = [mailEntry].map some := rfl
  have hrow : toRecord (some (mailRow "REMOVED")) =
      run presenceService (mailFetched "REMOVED") := rfl
  obtain ⟨-, hdisallowed, -⟩ := listed_answers fractionEnv (bareDevice []).core [] "equals"
    (show "l1" ≠ "" by decide) (show mailList.listById "l1" = some ["a1"] from rfl) hentries
    (by decide) (cons_ne_nil _ _) (cons_ne_nil _ _) hrow
  refine ⟨hremoved, fun h => ?_⟩
  obtain ⟨e, -, slot, a, ha, hin, -⟩ := h.present.mp (hdisallowed.mpr ⟨mailEntry,
    mem_singleton_self _, .serverFetch, ⟨"com.mail", true⟩, by decide +kernel,
    .inl (by decide +kernel)⟩)
  rw [hremoved slot a ha] at hin
  cases hin

end AppliverySoar.AppLists
