import AppliverySoar.Async.Sequence
import AppliverySoar.Compliance.Types
import AppliverySoar.Js.Json
import Mathlib.Data.List.Dedup

/-!
# The positions of devices

`fetchAndStoreDeviceLocation` asks for the latest point of a device and keeps it
in `DeviceLocation`; `loadDeviceLocations` is what an evaluation reads of that
table (locationsRefresh.service.ts, lines 60–149). A device without a point gets
a row at (0,0) that only its `error` tells from a position. The next answer
without a point clears that `error`, and the row is taken for a position.

Results:
* `noted_fetchAndStoreDeviceLocation`: what one call makes of the row, by what the
  answer said.
* `located_iff_settled`: after any sequence of calls a device is at the latest of
  its positions, and nowhere if there is none, exactly if there is one or no call
  has followed its first empty answer.
* `located_at_zero`: two empty answers place a device at (0,0).
-/

namespace AppliverySoar.Geofencing

open Async Prog Compliance Js List Option Function

/-! ## Rows and calls -/

/-- `NormalizedDevice`, as far as the refresher reads it. -/
structure LocatedDevice where
  id : String
  platform : String
  deriving DecidableEq

/-- A `DeviceLocation` row, without the workspace and the device that key it. -/
structure DeviceLocation where
  lat : ℚ
  lng : ℚ
  source : Option String
  recordedAt : Option ℚ
  fetchedAt : ℕ
  error : Option String
  deriving DecidableEq

/-- `error` of a row without a position. -/
def noLocationReported : String :=
  "no_location_reported"

/-- What is read of a point: `Number(lat)` and `Number(lng)`, `origin ?? null`,
and the date of the point, if it has one. -/
structure LocationFix where
  lat : Option ℚ
  lng : Option ℚ
  source : Value
  recordedAt : Option (Option ℚ)

/-- `res` of the locations endpoint. -/
structure LocationsAnswer where
  status : ℕ
  data : Value

/-- What the refresher awaits; `findLocations` answers ids with their rows. -/
inductive LocationCall
  | findLocation (workspaceSlug deviceId : String)
  | findLocations (workspaceSlug : String) (deviceIds : List String)
  | getLocations (mdmType deviceId : String) (dateIni : Option ℚ)
  | now
  | upsertLocation (workspaceSlug deviceId : String) (fix : LocationFix) (fetchedAt : ℕ)
  | createLocation (workspaceSlug deviceId : String) (row : DeviceLocation)
  | updateLocation (workspaceSlug deviceId : String) (fetchedAt : ℕ) (error : Option String)

/-- What a call is answered. -/
@[reducible] def LocationCall.Answer : LocationCall → Type
  | .findLocation .. => Option DeviceLocation
  | .findLocations .. => List (String × DeviceLocation)
  | .getLocations .. => LocationsAnswer
  | .now => ℕ
  | .upsertLocation .. => Unit
  | .createLocation .. => Unit
  | .updateLocation .. => Unit

/-- The signature of the calls. -/
@[reducible] def locationSig : Sig where
  Call := LocationCall
  Ret := LocationCall.Answer

/-- An `async` function of the module. -/
abbrev LocationProg (α : Type) : Type := Prog locationSig ServiceError α

/-- A call and its answer. -/
abbrev LocationMove : Type := Event locationSig ServiceError

/-- `await` of one of the calls. -/
def ask (c : LocationCall) : LocationProg (LocationCall.Answer c) :=
  Prog.call (S := locationSig) c

/-! ## The functions -/

def locationsMdmType (platform : String) : Option String :=
  if platform = "apple" || platform = "macos" then some "admDevice"
  else if platform = "android" then some "emmDevice"
  else if platform = "windows" then some "winDevice"
  else none

/-- What is read of the newest of some points (lines 108–113), if it has
coordinates. -/
def newestFix (r : Runtime) (items : List Value) : Except ServiceError (Option LocationFix) :=
  match items with
  | [] => .ok none
  | latest :: _ =>
    match latest.read "latitude", latest.read "longitude" with
    | .error e, _ | _, .error e => .error (.other e)
    | .ok lat, .ok lng =>
      if lat.isNullish || lng.isNullish then .ok none
      else
        let recordedAtRaw := (latest.member "date").orElse ((latest.member "createdAt").orElse .null)
        .ok (some
          { lat := lat.number r
            lng := lng.number r
            source := (latest.member "origin").orElse .null
            recordedAt := if recordedAtRaw.truthy then some (recordedAtRaw.date r) else none })

/-- `String(e)` of what was thrown. -/
def errorString : ServiceError → String
  | .http e => "Error: " ++ e.detail
  | .other message => "Error: " ++ message

/-- The body of the `try` (lines 101–142): the error that is left to be noted. -/
def checkLocation (r : Runtime) (mdmType deviceId workspaceSlug : String)
    (existing : Option DeviceLocation) : LocationProg (Option String) := do
  let res ← ask (.getLocations mdmType deviceId (existing.bind DeviceLocation.recordedAt))
  if 300 ≤ res.status then return some ("Applivery returned " ++ toString res.status)
  else
    match newestFix r (extractItems res.data) with
    | .error e => Prog.ret (.error e)
    | .ok (some fix) =>
      let now ← ask .now
      ask (.upsertLocation workspaceSlug deviceId fix now)
      return none
    | .ok none =>
      let now ← ask .now
      match existing with
      | some _ => ask (.updateLocation workspaceSlug deviceId now none)
      | none => ask (.createLocation workspaceSlug deviceId
          { lat := 0, lng := 0, source := none, recordedAt := none, fetchedAt := now,
            error := some noLocationReported })
      return none

/-- The row of a check that failed (lines 146–148). -/
def noteError (deviceId workspaceSlug : String) (existing : Option DeviceLocation)
    (error : String) : LocationProg Unit :=
  match existing with
  | none => pure ()
  | some _ => do
    let now ← ask .now
    ask (.updateLocation workspaceSlug deviceId now (some error))

def fetchAndStoreDeviceLocation (r : Runtime) (device : LocatedDevice) (workspaceSlug : String) :
    LocationProg Unit :=
  match locationsMdmType device.platform with
  | none => pure ()
  | some mdmType =>
    if device.id = "" then pure ()
    else do
      let existing ← ask (.findLocation workspaceSlug device.id)
      match ← (checkLocation r mdmType device.id workspaceSlug existing).attempt with
      | .ok none => pure ()
      | .ok (some error) => noteError device.id workspaceSlug existing error
      | .error e => noteError device.id workspaceSlug existing (errorString e)

/-- `loadDeviceLocations`: the entries of the map. -/
def loadDeviceLocations (workspaceSlug : String) (deviceIds : List String) :
    LocationProg (List (String × DeviceLocation)) :=
  if deviceIds.isEmpty then pure []
  else do
    let rows ← ask (.findLocations workspaceSlug deviceIds)
    return rows.filter fun row => row.2.error ≠ some noLocationReported

/-! ## The table -/

/-- `DeviceLocation`, by workspace and device. -/
structure LocationStore where
  rows : String × String → Option DeviceLocation

/-- What a nullable text column takes of a value. -/
def textColumn : Value → Option (Option String)
  | .null => some none
  | .str s => some (some s)
  | _ => none

/-- What a nullable date column takes of `null` and of a date. -/
def dateColumn : Option (Option ℚ) → Option (Option ℚ)
  | none => some none
  | some none => none
  | some (some time) => some (some time)

/-- The row of a point, unless a column refuses it. -/
def LocationFix.row (fix : LocationFix) (fetchedAt : ℕ) : Option DeviceLocation :=
  match fix.lat, fix.lng, textColumn fix.source, dateColumn fix.recordedAt with
  | some lat, some lng, some source, some recordedAt =>
    some { lat := lat, lng := lng, source := source, recordedAt := recordedAt,
           fetchedAt := fetchedAt, error := none }
  | _, _, _, _ => none

/-- Queries answer what is stored, and a write that the table can take is taken.
The endpoint may answer anything. -/
def LocationStore.may (s : LocationStore) (c : LocationCall)
    (r : Except ServiceError (LocationCall.Answer c)) : Prop :=
  match (⟨c, r⟩ : LocationMove) with
  | ⟨.findLocation slug id, .ok found⟩ => found = s.rows (slug, id)
  | ⟨.findLocations slug ids, .ok found⟩ =>
    found.Perm (ids.dedup.filterMap fun id => (s.rows (slug, id)).map fun row => (id, row))
  | ⟨.upsertLocation _ _ fix now, .ok _⟩ => (fix.row now).isSome
  | ⟨.upsertLocation _ _ fix now, .error _⟩ => fix.row now = none
  | ⟨.createLocation slug id _, .ok _⟩ => s.rows (slug, id) = none
  | ⟨.createLocation slug id _, .error _⟩ => (s.rows (slug, id)).isSome
  | ⟨.updateLocation slug id _ _, .ok _⟩ => (s.rows (slug, id)).isSome
  | ⟨.updateLocation slug id _ _, .error _⟩ => s.rows (slug, id) = none
  | ⟨.getLocations .., _⟩ => True
  | ⟨.now, .ok _⟩ => True
  | _ => False

/-- What an answered call leaves. -/
def LocationStore.next (s : LocationStore) (c : LocationCall)
    (r : Except ServiceError (LocationCall.Answer c)) : LocationStore :=
  match (⟨c, r⟩ : LocationMove) with
  | ⟨.upsertLocation slug id fix now, .ok _⟩ => ⟨Function.update s.rows (slug, id) (fix.row now)⟩
  | ⟨.createLocation slug id row, .ok _⟩ => ⟨Function.update s.rows (slug, id) (some row)⟩
  | ⟨.updateLocation slug id now error, .ok _⟩ =>
    ⟨Function.update s.rows (slug, id)
      ((s.rows (slug, id)).map fun row => { row with fetchedAt := now, error := error })⟩
  | _ => s

/-- The table as the functions see it. -/
def locationWorld : World locationSig ServiceError LocationStore :=
  ⟨LocationStore.may, LocationStore.next⟩

/-- A device that is to be checked. -/
structure LocationTask where
  workspaceSlug : String
  device : LocatedDevice
  deriving DecidableEq

/-- What a task runs. -/
def LocationTask.body (r : Runtime) (task : LocationTask) : LocationProg Unit :=
  fetchAndStoreDeviceLocation r task.device task.workspaceSlug

/-- A task that was run to its end. -/
abbrev LocationTurn : Type := Turn locationSig ServiceError LocationStore LocationTask

/-! ## What an answer says -/

/-- What an answer of the endpoint says of a device. -/
inductive LocationNews
  | position (point : ℚ × ℚ)
  | nothing
  | failure
  deriving DecidableEq

/-- The news of an answer: a point that a row can hold, an answer without
coordinates, or no answer to make use of. -/
def news (r : Runtime) (answer : Except ServiceError LocationsAnswer) : LocationNews :=
  match answer with
  | .error _ => .failure
  | .ok res =>
    if 300 ≤ res.status then .failure
    else
      match newestFix r (extractItems res.data) with
      | .error _ => .failure
      | .ok none => .nothing
      | .ok (some fix) =>
        match fix.row 0 with
        | some row => .position (row.lat, row.lng)
        | none => .failure

/-- What the endpoint was heard to answer. -/
def heard (es : List LocationMove) : List (Except ServiceError LocationsAnswer) :=
  es.filterMap fun
    | ⟨.getLocations .., answer⟩ => some answer
    | _ => none

/-- The row of a device after an answer. -/
def Noted (before after : Option DeviceLocation) (said : LocationNews) : Prop :=
  match said, before with
  | .position point, _ => ∃ row, after = some row ∧ (row.lat, row.lng) = point ∧ row.error = none
  | .nothing, none => ∃ row, after = some row ∧ (row.lat, row.lng) = (0, 0) ∧
      row.error = some noLocationReported
  | .nothing, some old => ∃ row, after = some row ∧ (row.lat, row.lng) = (old.lat, old.lng) ∧
      row.error = none
  | .failure, none => after = none
  | .failure, some old => ∃ row, after = some row ∧ (row.lat, row.lng) = (old.lat, old.lng) ∧
      row.error ≠ some noLocationReported

/-- The device can be asked for. -/
def LocatedDevice.Supported (device : LocatedDevice) : Prop :=
  (locationsMdmType device.platform).isSome ∧ device.id ≠ ""

instance (device : LocatedDevice) : Decidable device.Supported :=
  inferInstanceAs (Decidable (_ ∧ _))

/-- What one call has done: it has heard one answer, and changed one row. -/
structure Checked (r : Runtime) (task : LocationTask) (s s' : LocationStore)
    (es : List LocationMove) : Prop where
  noted : ∃ answer, heard es = [answer] ∧
    Noted (s.rows (task.workspaceSlug, task.device.id)) (s'.rows (task.workspaceSlug, task.device.id))
      (news r answer)
  others : ∀ key, key ≠ (task.workspaceSlug, task.device.id) → s'.rows key = s.rows key

section Programs

variable {r : Runtime} {task : LocationTask} {s s' : LocationStore}

theorem errorString_ne (e : ServiceError) : errorString e ≠ noLocationReported := by
  cases e <;>
  · intro h
    have hhead := congrArg (fun t => t.toList.head?) h
    simp [errorString, noLocationReported] at hhead

theorem statusError_ne (status : ℕ) :
    "Applivery returned " ++ toString status ≠ noLocationReported := by
  intro h
  have hhead := congrArg (fun t => t.toList.head?) h
  simp [noLocationReported] at hhead

theorem row_eq_map (fix : LocationFix) (now : ℕ) :
    fix.row now = (fix.row 0).map fun row => { row with fetchedAt := now } := by
  unfold LocationFix.row
  split <;> rfl

variable {fix : LocationFix}

theorem row_error {now : ℕ} {row : DeviceLocation}
    (h : fix.row now = some row) : row.error = none := by
  unfold LocationFix.row at h
  split at h
  · cases h
    rfl
  · cases h

theorem news_of_fix {res : LocationsAnswer} (hstatus : ¬300 ≤ res.status)
    (hfix : newestFix r (extractItems res.data) = .ok (some fix)) :
    news r (.ok res) = match fix.row 0 with
      | some row => .position (row.lat, row.lng)
      | none => .failure := by
  simp only [news, if_neg hstatus, hfix]

theorem heard_snoc (es : List LocationMove) (e : LocationMove)
    (he : ∀ mdmType id dateIni, e.call ≠ .getLocations mdmType id dateIni) :
    heard (es ++ [e]) = heard es := by
  obtain ⟨c, a⟩ := e
  unfold heard
  rw [filterMap_append]
  cases c with
  | getLocations mdmType id dateIni => exact absurd rfl (he mdmType id dateIni)
  | _ => exact append_nil _

/-- What is left to be done of a check that has failed. -/
def Failed (r : Runtime) (s : LocationStore) (c : LocationStore × List LocationMove) : Prop :=
  c.1.rows = s.rows ∧ ∃ answer, heard c.2 = [answer] ∧ news r answer = .failure

variable {existing : Option DeviceLocation}

/-- A check ends with its row written, or with an error and the row as it was. -/
theorem meets_checkLocation {es : List LocationMove} {mdmType : String} (hes : heard es = [])
    (hfound : existing = s.rows (task.workspaceSlug, task.device.id)) :
    (checkLocation r mdmType task.device.id task.workspaceSlug existing).Meets
      locationWorld.recorded (fun _ _ => True) (s, es) fun result c =>
        match result with
        | .ok none => Checked r task s c.1 c.2
        | .ok (some error) => Failed r s c ∧ error ≠ noLocationReported
        | .error _ => Failed r s c := by
  have hheard : ∀ dateIni a, heard (es ++ [⟨.getLocations mdmType task.device.id dateIni, a⟩]) =
      [a] := fun dateIni a => by
    unfold heard at hes ⊢
    rw [filterMap_append, hes]
    rfl
  have hrow : ∀ row, ∀ key ≠ (task.workspaceSlug, task.device.id), update s.rows
      (task.workspaceSlug, task.device.id) row key = s.rows key :=
    fun row key hkey => update_of_ne hkey _ _
  refine Meets.call_bind trivial (fun e _ => ⟨rfl, _, hheard _ _, rfl⟩) fun res _ => ?_
  by_cases hstatus : 300 ≤ res.status
  · rw [if_pos hstatus]
    exact ⟨⟨rfl, _, hheard _ _, by simp only [news, if_pos hstatus]⟩, statusError_ne _⟩
  · rw [if_neg hstatus]
    cases hfix : newestFix r (extractItems res.data) with
    | error e => exact ⟨rfl, _, hheard _ _, by simp only [news, if_neg hstatus, hfix]⟩
    | ok found =>
      cases found with
      | some fix =>
        have hnews := news_of_fix hstatus hfix
        refine Meets.call_bind trivial (fun _ h => (h : False).elim) fun now _ => ?_
        refine Meets.call_bind trivial (fun e hrefused => ?_) fun _ htaken => ?_
        · -- the table refuses the point, and the `catch` takes it for a failure
          have hnone : fix.row 0 = none := by
            have hnow : fix.row now = none := hrefused
            rwa [row_eq_map, map_eq_none_iff] at hnow
          rw [hnone] at hnews
          refine ⟨rfl, _, ?_, hnews⟩
          exact (heard_snoc _ _ (by simp)).trans ((heard_snoc _ _ (by simp)).trans (hheard _ _))
        · have hnow : (fix.row now).isSome := htaken
          rw [row_eq_map, isSome_map] at hnow
          obtain ⟨row, hrow'⟩ := isSome_iff_exists.mp hnow
          rw [hrow'] at hnews
          refine ⟨⟨_, (heard_snoc _ _ (by simp)).trans ((heard_snoc _ _ (by simp)).trans
            (hheard _ _)), ?_⟩, hrow _⟩
          rw [hnews]
          refine ⟨{ row with fetchedAt := now }, ?_, rfl, ?_⟩
          · exact (update_self ..).trans (by rw [row_eq_map, hrow']; rfl)
          · exact (row_error hrow' : row.error = none)
      | none =>
        have hnews : news r (.ok res) = .nothing := by simp only [news, if_neg hstatus, hfix]
        refine Meets.call_bind trivial (fun _ h => (h : False).elim) fun now _ => ?_
        cases existing with
        | some old =>
          refine Meets.call_bind trivial (fun e hgone => ?_) fun _ _ => ?_
          · exact absurd (hfound.trans hgone) (by simp)
          · refine ⟨⟨_, (heard_snoc _ _ (by simp)).trans ((heard_snoc _ _ (by simp)).trans
              (hheard _ _)), ?_⟩, hrow _⟩
            rw [hnews, ← hfound]
            refine ⟨{ old with fetchedAt := now, error := none }, ?_, rfl, rfl⟩
            refine (update_self ..).trans ?_
            show (s.rows _).map _ = _
            rw [← hfound]
            rfl
        | none =>
          refine Meets.call_bind trivial (fun e hthere => ?_) fun _ _ => ?_
          · have hthere' : (s.rows (task.workspaceSlug, task.device.id)).isSome := hthere
            rw [← hfound] at hthere'
            cases hthere'
          · refine ⟨⟨_, (heard_snoc _ _ (by simp)).trans ((heard_snoc _ _ (by simp)).trans
              (hheard _ _)), ?_⟩, hrow _⟩
            rw [hnews, ← hfound]
            exact ⟨_, update_self .., rfl, rfl⟩

/-- A failure leaves the row, and its error is no sign of a missing position. -/
theorem meets_noteError {c : LocationStore × List LocationMove}
    {error : String} (hfailed : Failed r s c) (herror : error ≠ noLocationReported)
    (hfound : existing = s.rows (task.workspaceSlug, task.device.id)) :
    (noteError task.device.id task.workspaceSlug existing error).Meets locationWorld.recorded
      (fun _ _ => True) c fun _ c' => Checked r task s c'.1 c'.2 := by
  obtain ⟨hrows, answer, hheard, hnews⟩ := hfailed
  cases existing with
  | none =>
    refine ⟨⟨answer, hheard, ?_⟩, fun key _ => by rw [hrows]⟩
    rw [hnews, hrows, ← hfound]
    rfl
  | some old =>
    refine Meets.call_bind trivial (fun _ h => (h : False).elim) fun now _ => ?_
    refine ⟨trivial, fun a hmay => ?_⟩
    cases a with
    | error e =>
      have hgone : c.1.rows (task.workspaceSlug, task.device.id) = none := hmay
      rw [hrows, ← hfound] at hgone
      cases hgone
    | ok u =>
      refine ⟨⟨answer, (heard_snoc _ _ (by simp)).trans ((heard_snoc _ _ (by simp)).trans hheard),
        ?_⟩, fun key hkey => (update_of_ne hkey _ _).trans (congrFun hrows key)⟩
      rw [hnews, ← hfound]
      refine ⟨{ old with fetchedAt := now, error := some error }, ?_, rfl, fun h =>
        herror (some.inj h)⟩
      refine (update_self ..).trans ?_
      show (c.1.rows _).map _ = _
      rw [hrows, ← hfound]
      rfl

/-- **Step lemma**: one call hears one answer, and makes of the row what the answer
says. -/
theorem noted_fetchAndStoreDeviceLocation (hsupported : task.device.Supported) :
    (task.body r).Meets locationWorld.recorded (fun _ _ => True) (s, []) fun _ c =>
      Checked r task s c.1 c.2 := by
  obtain ⟨mdmType, hmdm⟩ := isSome_iff_exists.mp hsupported.1
  unfold LocationTask.body fetchAndStoreDeviceLocation
  simp only [hmdm, if_neg hsupported.2]
  refine Meets.call_bind trivial (fun _ h => (h : False).elim) fun existing hfound => ?_
  refine Meets.bind (Meets.attempt (meets_checkLocation rfl hfound)) fun result c h => ?_
  cases result with
  | error e => exact meets_noteError h (errorString_ne e) hfound
  | ok left =>
    cases left with
    | none => exact h
    | some error => exact meets_noteError h.1 h.2 hfound

theorem unsupported_fetchAndStoreDeviceLocation (hsupported : ¬task.device.Supported) :
    task.body r = pure () := by
  unfold LocationTask.body fetchAndStoreDeviceLocation
  cases hmdm : locationsMdmType task.device.platform with
  | none => rfl
  | some mdmType =>
    have hid : task.device.id = "" := by
      by_contra hid
      exact hsupported ⟨by rw [hmdm]; rfl, hid⟩
    simp only [if_pos hid]

end Programs

/-! ## Sequences of calls -/

/-- The news of a device, call by call. -/
def newsOf (r : Runtime) (workspaceSlug deviceId : String) (ts : List LocationTurn) :
    List LocationNews :=
  ts.flatMap fun t =>
    if t.task.workspaceSlug = workspaceSlug ∧ t.task.device.id = deviceId then
      (heard t.events).map (news r)
    else []

/-- The latest position among some news. -/
def latestPosition (said : List LocationNews) : Option (ℚ × ℚ) :=
  said.foldl (fun last n =>
    match n with
    | .position point => some point
    | _ => last) none

/-- The news from the first empty answer on. -/
def sinceEmpty (said : List LocationNews) : List LocationNews :=
  said.dropWhile fun n => n = .failure

/-- A position has been reported, or nothing has followed the first empty answer. -/
def Settled (said : List LocationNews) : Prop :=
  (latestPosition said).isSome ∨ (sinceEmpty said).length ≤ 1

instance (said : List LocationNews) : Decidable (Settled said) :=
  inferInstanceAs (Decidable (_ ∨ _))

/-- The row of a device that has been heard of. -/
def Row (said : List LocationNews) (row : Option DeviceLocation) : Prop :=
  match latestPosition said, sinceEmpty said, row with
  | some point, _, some row => (row.lat, row.lng) = point ∧ row.error ≠ some noLocationReported
  | some _, _, none => False
  | none, [], row => row = none
  | none, [_], some row => (row.lat, row.lng) = (0, 0) ∧ row.error = some noLocationReported
  | none, _ :: _ :: _, some row => (row.lat, row.lng) = (0, 0) ∧ row.error ≠ some noLocationReported
  | none, _ :: _, none => False

/-- What an evaluation gets of a row. -/
def shownPosition (row : DeviceLocation) : Option (ℚ × ℚ) :=
  if row.error = some noLocationReported then none else some (row.lat, row.lng)

@[simp] theorem latestPosition_snoc (said : List LocationNews) (n : LocationNews) :
    latestPosition (said ++ [n]) =
      match n with
      | .position point => some point
      | _ => latestPosition said := by
  simp [latestPosition]

theorem sinceEmpty_snoc (said : List LocationNews) (n : LocationNews) :
    sinceEmpty (said ++ [n]) =
      if (sinceEmpty said).isEmpty then sinceEmpty [n] else sinceEmpty said ++ [n] :=
  dropWhile_append

@[simp] theorem sinceEmpty_nothing : sinceEmpty [.nothing] = [.nothing] := rfl

@[simp] theorem sinceEmpty_failure : sinceEmpty [.failure] = [] := rfl

/-- Without a position the news since the first empty answer begin with it. -/
theorem row_snoc {said : List LocationNews} {before after : Option DeviceLocation}
    {n : LocationNews} (h : Row said before) (hnoted : Noted before after n) :
    Row (said ++ [n]) after := by
  unfold Row at h ⊢
  rw [latestPosition_snoc, sinceEmpty_snoc]
  cases n with
  | position point =>
    obtain ⟨row, rfl, hpoint, herror⟩ := hnoted
    exact ⟨hpoint, by rw [herror]; simp⟩
  | nothing =>
    cases before with
    | none =>
      obtain ⟨row, rfl, hpoint, herror⟩ := hnoted
      split at h <;> simp_all
    | some old =>
      obtain ⟨row, rfl, hpoint, herror⟩ := hnoted
      split at h <;> simp_all
  | failure =>
    cases before with
    | none =>
      obtain rfl : after = none := hnoted
      split at h <;> simp_all
    | some old =>
      obtain ⟨row, rfl, hpoint, herror⟩ := hnoted
      split at h <;> simp_all

/-- The row of the device is not changed by anything else. -/
def KeepsRow (workspaceSlug deviceId : String) (s s' : LocationStore) : Prop :=
  s'.rows (workspaceSlug, deviceId) = s.rows (workspaceSlug, deviceId)

/-- What `loadDeviceLocations` gives of the device is the given position. -/
def Located (s : LocationStore) (workspaceSlug deviceId : String) (point : Option (ℚ × ℚ)) : Prop :=
  ∀ ids es entries, deviceId ∈ ids →
    Prog.Steps (loadDeviceLocations workspaceSlug ids) es (.ret (.ok entries)) →
    locationWorld.Accepts s es →
    ∀ p, (∃ row, (deviceId, row) ∈ entries ∧ (row.lat, row.lng) = p) ↔ point = some p

section Sequences

variable {r : Runtime} {init s : LocationStore} {ts : List LocationTurn}
  {workspaceSlug deviceId : String}

theorem mem_loadDeviceLocations {ids : List String} {es : List LocationMove}
    {entries : List (String × DeviceLocation)} (hid : deviceId ∈ ids)
    (hsteps : Prog.Steps (loadDeviceLocations workspaceSlug ids) es (.ret (.ok entries)))
    (haccepts : locationWorld.Accepts s es) (row : DeviceLocation) :
    (deviceId, row) ∈ entries ↔
      s.rows (workspaceSlug, deviceId) = some row ∧ row.error ≠ some noLocationReported := by
  have hmeets : (loadDeviceLocations workspaceSlug ids).Meets locationWorld (fun _ _ => True) s
      fun result _ => ∀ entries, result = .ok entries → ((deviceId, row) ∈ entries ↔
        s.rows (workspaceSlug, deviceId) = some row ∧ row.error ≠ some noLocationReported) := by
    unfold loadDeviceLocations
    rw [if_neg (by simp [ne_nil_of_mem hid])]
    refine Meets.call_bind trivial (fun e _ => by rintro entries ⟨⟩) fun rows hrows => ?_
    rintro entries ⟨⟩
    have hperm : rows.Perm (ids.dedup.filterMap fun id =>
        (s.rows (workspaceSlug, id)).map fun row => (id, row)) := hrows
    rw [mem_filter, hperm.mem_iff, mem_filterMap, decide_eq_true_eq]
    refine and_congr_left fun _ => ⟨?_, fun hrow => ⟨deviceId, mem_dedup.mpr hid, by simp [hrow]⟩⟩
    rintro ⟨id, -, hmap⟩
    obtain ⟨row', hrow', heq⟩ := map_eq_some_iff.mp hmap
    obtain ⟨rfl, rfl⟩ := Prod.mk.inj heq
    exact hrow'
  exact hmeets.post_of_steps hsteps haccepts entries rfl

theorem located_iff_shown {point : Option (ℚ × ℚ)} : Located s workspaceSlug deviceId point ↔
    (s.rows (workspaceSlug, deviceId)).bind shownPosition = point := by
  have hshown : ∀ p, (∃ row, (s.rows (workspaceSlug, deviceId) = some row ∧
      row.error ≠ some noLocationReported) ∧ (row.lat, row.lng) = p) ↔
      (s.rows (workspaceSlug, deviceId)).bind shownPosition = some p := fun p => by
    cases s.rows (workspaceSlug, deviceId) with
    | none => simp
    | some row =>
      by_cases herror : row.error = some noLocationReported <;> simp [shownPosition, herror]
  constructor
  · intro h
    have hsteps : Prog.Steps (loadDeviceLocations workspaceSlug [deviceId])
        [⟨.findLocations workspaceSlug [deviceId], .ok (([deviceId].dedup.filterMap fun id =>
          (s.rows (workspaceSlug, id)).map fun row => (id, row)))⟩] (.ret (.ok _)) :=
      .head (.refl _)
    have hmem := mem_loadDeviceLocations (mem_singleton_self deviceId) hsteps
      ⟨List.Perm.refl _, trivial⟩
    refine ext fun p => ?_
    rw [← hshown p, ← h _ _ _ (mem_singleton_self deviceId) hsteps
      ⟨List.Perm.refl _, trivial⟩ p]
    exact exists_congr fun row => and_congr_left fun _ => (hmem row).symm
  · rintro rfl ids es entries hid hsteps haccepts p
    rw [← hshown p]
    exact exists_congr fun row => and_congr_left fun _ =>
      mem_loadDeviceLocations hid hsteps haccepts row

theorem newsOf_snoc (t : LocationTurn) : newsOf r workspaceSlug deviceId (ts ++ [t]) =
    newsOf r workspaceSlug deviceId ts ++ newsOf r workspaceSlug deviceId [t] :=
  flatMap_append

/-- **Run lemma**: the row of a device is what its news make of it. -/
theorem row_of_sequence
    (h : Sequence locationWorld (LocationTask.body r) (KeepsRow workspaceSlug deviceId) init ts s)
    (hinit : init.rows (workspaceSlug, deviceId) = none) :
    Row (newsOf r workspaceSlug deviceId ts) (s.rows (workspaceSlug, deviceId)) := by
  induction h with
  | start => exact hinit
  | @turn ts t _ hlegal ih =>
    rw [newsOf_snoc]
    by_cases hsupported : t.task.device.Supported
    · have hchecked := hlegal.post_recorded (noted_fetchAndStoreDeviceLocation hsupported)
      by_cases hkey : t.task.workspaceSlug = workspaceSlug ∧ t.task.device.id = deviceId
      · obtain ⟨answer, hheard, hnoted⟩ := hchecked.noted
        rw [hkey.1, hkey.2] at hnoted
        have hnews : newsOf r workspaceSlug deviceId [t] = [news r answer] := by
          simp [newsOf, hkey, hheard]
        rw [hnews]
        exact row_snoc ih hnoted
      · have hnews : newsOf r workspaceSlug deviceId [t] = [] := by simp [newsOf, hkey]
        rw [hnews, append_nil, hchecked.others _ fun heq => hkey (by
          obtain ⟨hslug, hid⟩ := Prod.mk.inj heq
          exact ⟨hslug.symm, hid.symm⟩)]
        exact ih
    · have hsteps := hlegal.steps
      rw [unsupported_fetchAndStoreDeviceLocation hsupported] at hsteps
      generalize hevents : t.events = es at hsteps
      generalize t.result = result at hsteps
      cases hsteps
      have hnews : newsOf r workspaceSlug deviceId [t] = [] := by simp [newsOf, hevents, heard]
      rw [hnews, append_nil, Turn.after, hevents]
      exact ih
  | outside _ hkeeps ih =>
    rw [hkeeps]
    exact ih

/-- After every sequence of calls an evaluation has a device at the latest of its
positions, and nowhere if it has none, exactly if it has one or no call has
followed its first empty answer. -/
theorem located_iff_settled {r : Runtime} {init s : LocationStore} {ts : List LocationTurn}
    {workspaceSlug deviceId : String}
    (h : Sequence locationWorld (LocationTask.body r) (KeepsRow workspaceSlug deviceId) init ts s)
    (hinit : init.rows (workspaceSlug, deviceId) = none) :
    Located s workspaceSlug deviceId (latestPosition (newsOf r workspaceSlug deviceId ts)) ↔
      Settled (newsOf r workspaceSlug deviceId ts) := by
  have hrow := row_of_sequence h hinit
  rw [located_iff_shown]
  unfold Row at hrow
  unfold Settled
  split at hrow <;> simp_all [shownPosition]

end Sequences

/-! ## Devices without a position -/

/-- A runtime whose parsers know no text. -/
def bareRuntime : Runtime where
  now := 0
  parseDate _ := none
  parseNumber _ := none
  printNumber _ := ""
  toLowerCase s := s
  inherited _ := .undefined
  setMember _ _ := .undefined

/-- An empty page. -/
def emptyPage : LocationsAnswer :=
  ⟨200, .obj [("items", .arr [])]⟩

/-- A page with a point. -/
def pointPage : LocationsAnswer :=
  ⟨200, .obj [("items", .arr [.obj [("latitude", .num 40), ("longitude", .num (-3))]])]⟩

/-- The table beside an endpoint whose answers depend on the row. -/
def LocationStore.reply (api : Option DeviceLocation → LocationsAnswer) (s : LocationStore) :
    (c : LocationCall) → Except ServiceError (LocationCall.Answer c)
  | .findLocation slug id => .ok (s.rows (slug, id))
  | .findLocations slug ids =>
    .ok (ids.dedup.filterMap fun id => (s.rows (slug, id)).map fun row => (id, row))
  | .getLocations _ id _ => .ok (api (s.rows ("acme", id)))
  | .now => .ok 0
  | .upsertLocation _ _ fix now => if (fix.row now).isSome then .ok () else .error (.other "")
  | .createLocation slug id _ => if s.rows (slug, id) = none then .ok () else .error (.other "")
  | .updateLocation slug id _ _ =>
    if (s.rows (slug, id)).isSome then .ok () else .error (.other "")

variable (api : Option DeviceLocation → LocationsAnswer)

theorem may_reply (s : LocationStore)
    (c : LocationCall) : s.may c (s.reply api c) := by
  cases c with
  | findLocations => exact List.Perm.refl _
  | upsertLocation slug id fix now =>
    show s.may (.upsertLocation slug id fix now) (if _ then _ else _)
    split_ifs with h
    · exact h
    · exact not_isSome_iff_eq_none.mp h
  | createLocation slug id row =>
    show s.may (.createLocation slug id row) (if _ then _ else _)
    split_ifs with h
    · exact h
    · exact isSome_iff_ne_none.mpr h
  | updateLocation slug id now error =>
    show s.may (.updateLocation slug id now error) (if _ then _ else _)
    split_ifs with h
    · exact h
    · exact not_isSome_iff_eq_none.mp h
  | findLocation => exact rfl
  | _ => trivial

/-- A table without rows. -/
def noRows : LocationStore :=
  ⟨fun _ => none⟩

/-- A phone is checked a number of times. -/
def phoneTurns (api : Option DeviceLocation → LocationsAnswer) (times : ℕ) :
    List LocationTurn × LocationStore :=
  Turn.playAll locationWorld (LocationTask.body bareRuntime) (LocationStore.reply api)
    (List.replicate times ⟨"acme", "d1", "android"⟩) ([], noRows)

theorem sequence_phoneTurns (times : ℕ) :
    Sequence locationWorld (LocationTask.body bareRuntime) (KeepsRow "acme" "d1") noRows
      (phoneTurns api times).1 (phoneTurns api times).2 :=
  Sequence.playAll (may_reply api) _ .start

/-- An endpoint that has nothing, then a point, and then fails. -/
def laterPoint (row : Option DeviceLocation) : LocationsAnswer :=
  match row with
  | none => emptyPage
  | some row => if row.error = some noLocationReported then pointPage else ⟨500, .null⟩

/-- A position that was reported stays through a failure. -/
theorem located_iff_settled_reported : Located (phoneTurns laterPoint 3).2 "acme" "d1"
    (some (40, -3)) := by
  have hpoint : latestPosition (newsOf bareRuntime "acme" "d1" (phoneTurns laterPoint 3).1) =
      some (40, -3) := by
    decide +kernel
  rw [← hpoint]
  exact (located_iff_settled (sequence_phoneTurns laterPoint 3) rfl).mpr (by decide +kernel)

/-- Two empty answers place a device at (0,0). -/
theorem located_at_zero :
    ¬∀ (r : Runtime) (init s : LocationStore) (ts : List LocationTurn)
      (workspaceSlug deviceId : String),
      Sequence locationWorld (LocationTask.body r) (KeepsRow workspaceSlug deviceId) init ts s →
      init.rows (workspaceSlug, deviceId) = none →
      Located s workspaceSlug deviceId (latestPosition (newsOf r workspaceSlug deviceId ts)) := by
  intro hall
  have hlocated := hall _ _ _ _ _ _ (sequence_phoneTurns (fun _ => emptyPage) 2) rfl
  have hnone : latestPosition (newsOf bareRuntime "acme" "d1"
      (phoneTurns (fun _ => emptyPage) 2).1) = none := by
    decide +kernel
  have hzero : ((phoneTurns (fun _ => emptyPage) 2).2.rows ("acme", "d1")).bind shownPosition =
      some (0, 0) := by
    decide +kernel
  rw [located_iff_shown, hnone, hzero] at hlocated
  cases hlocated

end AppliverySoar.Geofencing
