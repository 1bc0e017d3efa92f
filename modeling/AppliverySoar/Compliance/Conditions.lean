import AppliverySoar.Compliance.Evaluate
import AppliverySoar.Js.Value

/-!
# What a condition says about a device

`evaluateCondition` (complianceEvaluate.ts, lines 36–440) with `compareScalar`,
`getByPath`, the version tuples and the zones of geofence.service.ts (lines
42–90), over the record of a device, the app lists and the geofencing data.

A field of a normalized device that its type says is an array is one or is
missing. The great-circle distance is a parameter, and so is what depends on the
runtime.

Results:
* `evaluateCondition_withApps`: the installed apps matter to the app lists and to
  custom fields that lead into them, and to no other field.
* `evaluateCondition_geo`: the geofencing data matter to three fields.
* `evaluateCondition_location`: of the locations, the device's own matters.
-/

namespace AppliverySoar.Compliance

open Js

/-! ## Zones -/

/-- `{ lat, lng }`. -/
structure Point where
  lat : ℚ
  lng : ℚ
  deriving DecidableEq

/-- `GeofenceZoneLike`. -/
structure GeofenceZone where
  shape : String
  center : Option Point := none
  radiusMeters : Option ℚ := none
  points : Option (List Point) := none

/-- An entry of `locationsByDeviceId`, with the moment of its `fetchedAt`. -/
structure DeviceLocation extends Point where
  fetchedAt : ℚ
  deriving DecidableEq

/-- The runtime, and `haversineDistanceMeters`. -/
structure EvalEnv extends Runtime where
  haversineDistanceMeters : Point → Point → ℚ

/-- `intersects`, for the corners `i` and `j`. -/
def intersects (p i j : Point) : Bool :=
  (decide (i.lat > p.lat) != decide (j.lat > p.lat)) &&
    decide (p.lng < (j.lng - i.lng) * (p.lat - i.lat) / (j.lat - i.lat) + i.lng)

/-- The loop of `pointInPolygon` from the corner `j` on. -/
def pointInPolygonFrom (p j : Point) : List Point → Bool
  | [] => false
  | i :: ring => (intersects p i j) != pointInPolygonFrom p i ring

def pointInPolygon (p : Point) (ring : List Point) : Bool :=
  match ring.getLast? with
  | none => false
  | some last => pointInPolygonFrom p last ring

def isPointInZone (env : EvalEnv) (p : Point) (zone : GeofenceZone) : Bool :=
  if zone.shape = "circle" then
    match zone.center, zone.radiusMeters with
    | some center, some radiusMeters => env.haversineDistanceMeters p center ≤ radiusMeters
    | _, _ => false
  else if zone.shape = "polygon" then
    match zone.points with
    | some ring => if ring.length < 3 then false else pointInPolygon p ring
    | none => false
  else false

/-! ## Versions -/

/-- The separators of `versionTuple`. -/
def isVersionSeparator (c : Char) : Bool :=
  c = '.' || c = '-' || c = '_'

/-- `versionTuple` of a text. -/
def versionTupleOf (s : List Char) : List ℤ :=
  (s.splitOnP isVersionSeparator).map fun part => (parseInt part).getD 0

def versionTuple (env : EvalEnv) (v : Value) : List ℤ :=
  versionTupleOf ((v.orElse (.str "0")).text env.toRuntime).toList

/-- `compareVersionTuples`: the first segments that differ decide. -/
def compareVersionTuples (a b : List ℤ) : Ordering :=
  (((List.range (max a.length b.length)).map fun i => compare (a.getD i 0) (b.getD i 0)).find?
    fun o => o ≠ .eq).getD .eq

/-- The match of `/^([\d]+(?:\.[\d]+)*)/`, empty when there is none. -/
def leadingVersion (s : List Char) : List Char :=
  ['.'].intercalate (((s.takeWhile fun c => c.isDigit || c = '.').splitOn '.').takeWhile
    fun segment => !segment.isEmpty)

def patchLevelTuple (env : EvalEnv) (platform : Value) (raw : Value) : List ℤ :=
  let s := trim ((raw.orElse (.str "")).text env.toRuntime).toList
  if platform.strictEq (.str "apple") || platform.strictEq (.str "macos") then
    versionTupleOf (if (leadingVersion s).isEmpty then s else leadingVersion s)
  else versionTupleOf s

/-! ## Scalars -/

/-- What an operand consists of besides its field. -/
structure Operand where
  operator : String
  value : Value := .undefined

/-- `String(v ?? "")`. -/
def textOrEmpty (env : EvalEnv) (v : Value) : String :=
  (v.orElse (.str "")).text env.toRuntime

/-- `Number(v ?? 0)`. -/
def numberOrZero (env : EvalEnv) (v : Value) : Option ℚ :=
  (v.orElse (.num 0)).number env.toRuntime

def compareScalar (env : EvalEnv) (actual : Value) (operator : String) (target : Value) : Bool :=
  if operator = "exists" then !actual.isNullish && !actual.strictEq (.str "")
  else if operator = "missing" then actual.isNullish || actual.strictEq (.str "")
  else if operator = "contains" then
    includes (env.toLowerCase (textOrEmpty env target)) (env.toLowerCase (textOrEmpty env actual))
  else if operator = "greaterThan" then
    less (target.number env.toRuntime) (actual.number env.toRuntime)
  else if operator = "lessThan" then
    less (actual.number env.toRuntime) (target.number env.toRuntime)
  else if operator = "notEquals" then textOrEmpty env actual ≠ textOrEmpty env target
  else textOrEmpty env actual = textOrEmpty env target

/-- `operator === "lessThan" ? actual < target : actual > target`. -/
def aboveUnlessLess (operator : String) (actual target : Option ℚ) : Bool :=
  if operator = "lessThan" then less actual target else less target actual

/-- `operator === "greaterThan" ? actual > target : actual < target`. -/
def belowUnlessGreater (operator : String) (actual target : Option ℚ) : Bool :=
  if operator = "greaterThan" then less target actual else less actual target

/-- The branches that compare a count or an amount that may be missing. -/
def compareAmount (env : EvalEnv) (actual : Value) (operator : String) (value : Value) : Bool :=
  !actual.isNullish &&
    aboveUnlessLess operator (actual.number env.toRuntime) (numberOrZero env value)

/-- `new Date(String(iso).replace("Z", "+00:00")).getTime()`. -/
def parseIso (env : EvalEnv) (iso : Value) : Option ℚ :=
  env.parseDate (String.ofList (replaceFirst 'Z' "+00:00".toList (iso.text env.toRuntime).toList))

def daysSince (env : EvalEnv) (iso : Value) : Option ℚ :=
  if !iso.truthy then none else (parseIso env iso).map fun t => (env.now - t) / 86400000

/-- The rest of the loop of `getByPath`. -/
def getByPathFrom (env : EvalEnv) (cur : Value) : List String → Value
  | [] => cur
  | part :: parts =>
    if cur.isObject then getByPathFrom env (cur.prop env.toRuntime part) parts else .null

/-- `path.split(".")`. -/
def pathParts (path : String) : List String :=
  (path.toList.splitOn '.').map String.ofList

/-- `getByPath` from the object whose properties `get` reads. -/
def getByPath (env : EvalEnv) (get : String → Value) (path : String) : Value :=
  match pathParts path with
  | [] => .null
  | part :: parts => (getByPathFrom env (get part) parts).orElse .null

/-- `exists`, `missing` or a comparison, for an entry that is there or not. -/
def comparePresent (env : EvalEnv) (present : Bool) (actual : Value) (operator : String)
    (target : Value) : Bool :=
  if operator = "exists" then present
  else if operator = "missing" then !present
  else present && compareScalar env actual operator target

/-! ## The fields that read the device's record -/

/-- `Boolean(actual) === Boolean(value)`. -/
def compareBool (actual : Bool) (value : Value) : Bool :=
  actual = value.truthy

/-- `(v ?? []).some((x) => x[key])`; nothing where `some` throws. -/
def someElement (env : EvalEnv) (v : Value) (key : String) : Option Bool :=
  v.elements.map fun l => l.any fun x => (x.prop env.toRuntime key).truthy

/-- `status ? status.pendingCount : null`, for a status that counts. -/
def pendingCount (env : EvalEnv) (status : Value) (counts : Bool) : Value :=
  if status.truthy && counts then status.prop env.toRuntime "pendingCount" else .null

/-- The `attrs` of `smartAttribute`: a later attribute of a name replaces an
earlier one. -/
def smartAttributes (env : EvalEnv) (l : List Value) : Value :=
  .obj (l.reverse.map fun a =>
    ((a.prop env.toRuntime "name").text env.toRuntime, a.prop env.toRuntime "value"))

/-- `secondsPerUnit[unit] ?? 86400`. -/
def secondsPerUnit (env : EvalEnv) (unit : Value) : Value :=
  ((Value.obj [("minutes", .num 60), ("hours", .num 3600), ("days", .num 86400)]).prop
    env.toRuntime (unit.text env.toRuntime)).orElse (.num 86400)

/-- `present` of `triggerFired`. -/
def triggerPresent (env : EvalEnv) (entry target : Value) : Bool :=
  let prop := fun (v : Value) key => v.prop env.toRuntime key
  entry.truthy && (prop entry "status").strictEq (.str "active") &&
    (!(prop target "withinMinutes").truthy ||
      let ageMinutes := (env.parseDate ((prop entry "lastFiredAt").text env.toRuntime)).map
        fun t => (env.now - t) / 60000
      ageMinutes.any fun age => 0 ≤ age &&
        ((prop target "withinMinutes").number env.toRuntime).any fun most => age ≤ most)

/-- The branches of `evaluateCondition` that read nothing but the device, whose
properties `get` reads. -/
def evaluateField (env : EvalEnv) (get : String → Value) (field operator : String)
    (value : Value) : Bool :=
  let prop := fun (v : Value) key => v.prop env.toRuntime key
  let target := value.orElse (.obj [])
  match field with
  | "manufacturer" => compareScalar env (get "manufacturer") operator value
  | "model" => compareScalar env (get "model") operator value
  | "serialNumber" => compareScalar env (get "serialNumber") operator value
  | "imei" => compareScalar env (get "imei") operator value
  | "mdmUserEmail" => compareScalar env (prop (get "mdmUser") "email") operator value
  | "totalStorageGb" => compareScalar env (get "totalStorageGb") operator value
  | "ramGb" => compareScalar env (get "ramGb") operator value
  | "riskScore" => compareScalar env (get "riskScore") operator value
  | "riskTier" => compareScalar env (get "riskTier") operator value
  | "osUpdatePendingCount" =>
    compareAmount env (pendingCount env (get "osUpdateStatus") true) operator value
  | "osUpdateExploitedPending" =>
    (someElement env (prop (get "osUpdateStatus") "pendingKbs") "exploited").any
      fun actual => compareBool actual value
  | "vulnPendingCveCount" =>
    let status := get "vulnStatus"
    compareAmount env (pendingCount env status
      (!(prop status "confidence").strictEq (.str "unknown"))) operator value
  | "vulnExploitedPending" =>
    (someElement env (prop (get "vulnStatus") "pendingCves") "exploited").any
      fun actual => compareBool actual value
  | "vulnServiceCriticalHighCount" =>
    let status := get "vulnServiceStatus"
    let counts := (prop status "counts").orElse (.obj [])
    let actual := do
      let critical ← numberOrZero env (prop counts "CRITICAL")
      let high ← numberOrZero env (prop counts "HIGH")
      return critical + high
    status.truthy && (prop status "checked").truthy &&
      aboveUnlessLess operator actual (numberOrZero env value)
  | "vulnServiceHasKev" =>
    let status := get "vulnServiceStatus"
    compareBool (status.truthy && (prop status "checked").truthy && (prop status "hasKev").truthy)
      value
  | "vulnServiceChecked" =>
    let status := get "vulnServiceStatus"
    compareBool (status.truthy && (prop status "checked").truthy) value
  | "osEol" =>
    let status := get "osLifecycleStatus"
    compareBool (status.truthy && (prop status "isEol").truthy) value
  | "appleAppUpdatesPending" =>
    compareAmount env (pendingCount env (get "appleAppUpdateStatus") true) operator value
  | "smartAttribute" =>
    (get "smartAttributes").elements.any fun l =>
      let attrs := smartAttributes env l
      let attrName := (prop target "name").text env.toRuntime
      comparePresent env (attrs.has env.toRuntime attrName) (prop attrs attrName) operator
        (prop target "compareValue")
  | "selfReportedAttribute" =>
    let attrs := (prop (get "selfReported") "attributes").orElse (.obj [])
    let attrName := (prop target "name").text env.toRuntime
    attrs.isObject && comparePresent env (attrs.has env.toRuntime attrName) (prop attrs attrName)
      operator (prop target "compareValue")
  | "customCheckResult" =>
    let results := (prop (get "selfReported") "customCheckResults").orElse (.obj [])
    let entry := prop results ((prop target "key").text env.toRuntime)
    comparePresent env (entry.truthy && !(prop entry "error").truthy) (prop entry "value") operator
      (prop target "compareValue")
  | "triggerFired" =>
    let fires := (get "triggerFires").orElse (.obj [])
    let entry := prop fires ((prop target "triggerId").text env.toRuntime)
    if operator = "exists" then triggerPresent env entry target
    else if operator = "missing" then !triggerPresent env entry target
    else false
  | "hasSelfReported" => compareBool (get "selfReported").truthy value
  | "selfReportDaysAgo" =>
    let lastReported := prop (get "selfReported") "lastReportedAt"
    match daysSince env lastReported with
    | none => operator = "greaterThan"
    | some days => belowUnlessGreater operator (some days) (numberOrZero env value)
  | "isCompliant" => compareBool (get "isCompliant").truthy value
  | "platform" =>
    let same := (get "platform").strictEq value
    if operator = "equals" then same else !same
  | "osVersion" =>
    let cmp := compareVersionTuples (versionTuple env (get "osVersion")) (versionTuple env value)
    if operator = "lessThan" then cmp = .lt
    else if operator = "greaterThan" then cmp = .gt
    else cmp = .eq
  | "osPatchLevel" =>
    let cmp := compareVersionTuples (patchLevelTuple env (get "platform") (get "osPatchLevel"))
      (patchLevelTuple env (get "platform") value)
    if operator = "lessThan" then cmp = .lt
    else if operator = "greaterThan" then cmp = .gt
    else cmp = .eq
  | "lastSeenDaysAgo" =>
    (daysSince env (get "lastSeen")).any fun days =>
      belowUnlessGreater operator (some days) (numberOrZero env value)
  | "daysSinceEnrollment" =>
    let enrolledAt := get "enrolledAt"
    let unit := (prop target "unit").orElse (.str "days")
    let targetSeconds := do
      let amount ← numberOrZero env (prop target "amount")
      let seconds ← (secondsPerUnit env unit).number env.toRuntime
      return amount * seconds
    enrolledAt.truthy && (parseIso env enrolledAt).any fun t =>
      targetSeconds.isSome &&
        belowUnlessGreater operator (some ((env.now - t) / 1000)) targetSeconds
  | "battery" => compareAmount env (get "battery") operator value
  | "availableStorageGb" => compareAmount env (get "availableStorageGb") operator value
  | "segmentId" =>
    let same := decide (textOrEmpty env (get "segmentId") = textOrEmpty env value)
    if operator = "equals" then same else !same
  | "tags" =>
    (get "tags").elements.any fun tags =>
      let present := tags.any fun tag => tag.strictEq value
      if operator = "includes" then present else !present
  | "state" =>
    let same := (get "state").strictEq value
    if operator = "equals" then same else !same
  | "deviceAudienceId" =>
    (get "deviceAudiences").elements.any fun audiences =>
      let isMember := audiences.any fun a =>
        decide ((prop a "id").text env.toRuntime = textOrEmpty env value)
      if operator = "includes" then isMember else !isMember
  | "missingPolicyId" =>
    if (prop target "platform").truthy && !(get "platform").strictEq (prop target "platform") then
      false
    else (get "activePolicies").elements.any fun active =>
      !active.any fun p => (prop p "id").strictEq (prop target "policyId")
  | _ => false

/-! ## The fields that read more than the record -/

/-- An entry of `catalogById`. -/
structure CatalogEntry where
  identifier : String
  name : Option String

structure AppListsContext where
  catalogById : String → Option CatalogEntry
  listById : String → Option (List String)

abbrev ZonesById := String → Option GeofenceZone

/-- `locationsByDeviceId`. -/
abbrev LocationsById := String → Option DeviceLocation

/-- A property of the device's record: a typed one, one of `facts`, or an
inherited one. -/
def deviceProperty (env : EvalEnv) (core : DeviceCore) (facts : List (String × Value))
    (key : String) : Value :=
  match key with
  | "id" => .str core.id
  | "displayName" => .str core.displayName
  | "serialNumber" => .str core.serialNumber
  | "platform" => .str core.platform
  | "platformDeviceId" => .str core.platformDeviceId
  | "riskTier" => core.riskTier.elim .null .str
  | "deviceAudiences" => .arr (core.deviceAudiences.map fun a => .obj [("id", .str a)])
  | "segmentId" => core.segmentId.elim .null .str
  | _ => (facts.lookup key).getD (env.inherited key)

/-- `id.replace(/_[a-z0-9]{13}$/i, "")`. -/
def stripPackageFamilySuffix (id : String) : String :=
  let suffix := id.toList.drop (id.toList.length - 14)
  match suffix with
  | '_' :: rest =>
    if rest.length = 13 ∧ rest.all fun c => c.isAlphanum then
      String.ofList (id.toList.take (id.toList.length - 14))
    else id
  | _ => id

def isPresent (env : EvalEnv) (installed : List String) (e : CatalogEntry) : Bool :=
  let idLower := env.toLowerCase e.identifier
  installed.contains idLower || installed.contains (stripPackageFamilySuffix idLower) ||
    e.name.any fun name => name ≠ "" && installed.contains (env.toLowerCase name)

/-- `requiredAppList` and `disallowedAppList`. -/
def evaluateAppList (env : EvalEnv) (required : Bool) (installedApps : Value)
    (appLists : Option AppListsContext) (value : Value) : Bool :=
  match appLists, installedApps with
  | some ctx, .set installed =>
    value.truthy && (ctx.listById (value.text env.toRuntime)).any fun appIds =>
      let entries := appIds.filterMap fun id =>
        (ctx.catalogById id).filter fun e => e.identifier ≠ ""
      !entries.isEmpty &&
        if required then !entries.all (isPresent env installed)
        else entries.any (isPresent env installed)
  | _, _ => false

/-- `customField`. -/
def evaluateCustomField (env : EvalEnv) (get : String → Value) (operator : String)
    (value : Value) : Bool :=
  let prop := fun (v : Value) key => v.prop env.toRuntime key
  let target := value.orElse (.obj [])
  match (prop target "path").orElse (.str "") with
  | .str path =>
    compareScalar env (getByPath env get path) operator (prop target "compareValue")
  | _ => false

/-- `geofenceZoneId`. -/
def evaluateZone (env : EvalEnv) (zones : ZonesById) (loc : Option DeviceLocation)
    (operator : String) (value : Value) : Bool :=
  match zones (textOrEmpty env value), loc with
  | some zone, some loc =>
    let inside := isPointInZone env loc.toPoint zone
    if operator = "inside" then inside else !inside
  | _, _ => false

/-- `locationAgeMinutes`. -/
def evaluateLocationAge (env : EvalEnv) (loc : Option DeviceLocation) (operator : String)
    (value : Value) : Bool :=
  loc.any fun loc =>
    belowUnlessGreater operator (some ((env.now - loc.fetchedAt) / 60000)) (numberOrZero env value)

/-- `evaluateCondition`, over everything that it is given. -/
def evaluateWithContext (env : EvalEnv) (core : DeviceCore) (facts : List (String × Value))
    (field : String) (c : Operand) (appLists : Option AppListsContext)
    (geo : Option (ZonesById × LocationsById)) : Bool :=
  let get := deviceProperty env core facts
  let loc := geo.bind fun g => g.2 core.id
  if field = "geofenceZoneId" then geo.any fun g => evaluateZone env g.1 loc c.operator c.value
  else if field = "hasLocationData" then compareBool loc.isSome c.value
  else if field = "locationAgeMinutes" then evaluateLocationAge env loc c.operator c.value
  else if field = "customField" then evaluateCustomField env get c.operator c.value
  else if field = "requiredAppList" then
    evaluateAppList env true (get "installedApps") appLists c.value
  else if field = "disallowedAppList" then
    evaluateAppList env false (get "installedApps") appLists c.value
  else evaluateField env get field c.operator c.value

/-- The evaluator of the source. An inventory is a `Set` of identifiers or
`null`. -/
@[reducible] def conditionEvaluator (env : EvalEnv) : Evaluator where
  Facts := List (String × Value)
  Operand := Operand
  Apps := Option (List String)
  AppLists := AppListsContext
  Zones := ZonesById
  Locations := LocationsById
  noFacts := []
  noApps := none
  noAppLists := ⟨fun _ => none, fun _ => none⟩
  noZones := fun _ => none
  noLocations := fun _ => none
  attachApps facts apps := ("installedApps", apps.elim .null .set) :: facts
  holds := evaluateWithContext env

/-! ## What a field reads -/

/-- The fields that read the geofencing data. -/
def locationFields : List String := ["geofenceZoneId", "hasLocationData", "locationAgeMinutes"]

/-- The first part of the path of `customField`. -/
def customRoot (env : EvalEnv) (value : Value) : Option String :=
  match ((value.orElse (.obj [])).prop env.toRuntime "path").orElse (.str "") with
  | .str path => (pathParts path).head?
  | _ => none

section Reads

variable {env : EvalEnv}

/-- The condition reads the geofencing data. -/
def Condition.readsLocation (c : Condition (conditionEvaluator env)) : Bool :=
  locationFields.contains c.field

/-- The condition reads the installed apps. -/
def Condition.readsInventory (c : Condition (conditionEvaluator env)) : Bool :=
  appListFields.contains c.field ||
    (c.field = "customField" && customRoot env c.operand.value = some "installedApps")

theorem deviceProperty_attach (core : DeviceCore) (facts : List (String × Value)) (v : Value) :
    deviceProperty env core (("installedApps", v) :: facts) =
      fun key => if key = "installedApps" then v else deviceProperty env core facts key := by
  funext key
  by_cases h : key = "installedApps"
  · subst h
    rw [if_pos rfl]
    simp [deviceProperty]
  · rw [if_neg h]
    unfold deviceProperty
    rw [List.lookup_cons, beq_eq_false_iff_ne.mpr h]

/-- No other field reads `installedApps`. -/
theorem evaluateField_attach (get : String → Value) (v : Value) (field operator : String)
    (value : Value) :
    evaluateField env (fun key => if key = "installedApps" then v else get key) field operator
      value = evaluateField env get field operator value := by
  unfold evaluateField
  simp only [String.reduceEq, if_false]

theorem evaluateCustomField_attach (get : String → Value) (v : Value) (operator : String)
    {value : Value} (h : customRoot env value ≠ some "installedApps") :
    evaluateCustomField env (fun key => if key = "installedApps" then v else get key) operator
      value = evaluateCustomField env get operator value := by
  unfold customRoot at h
  unfold evaluateCustomField
  dsimp only at h ⊢
  split
  · next path hpath =>
    rw [hpath] at h
    dsimp only at h
    unfold getByPath
    cases hparts : pathParts path with
    | nil => rfl
    | cons part parts =>
      rw [hparts] at h
      have hpart : part ≠ "installedApps" := fun heq => h (congrArg some heq)
      dsimp only
      rw [if_neg hpart]
  · rfl

variable {c : Condition (conditionEvaluator env)}

theorem evaluateCondition_withApps
    (h : c.readsInventory = false) (d : Device (conditionEvaluator env))
    (apps : Option (List String)) (ctx : EvalContext (conditionEvaluator env)) :
    evaluateCondition (d.withApps apps) c ctx = evaluateCondition d c ctx := by
  obtain ⟨field, operand⟩ := c
  simp only [Condition.readsInventory, Bool.or_eq_false_iff, Bool.and_eq_false_iff,
    decide_eq_false_iff_not, appListFields, List.contains_cons, beq_eq_false_iff_ne] at h
  obtain ⟨⟨hrequired, hdisallowed, -⟩, hcustom⟩ := h
  show evaluateWithContext env d.toDeviceCore (("installedApps", apps.elim .null .set) :: d.facts)
    field operand ctx.appLists ctx.geo = evaluateWithContext env d.toDeviceCore d.facts field operand
      ctx.appLists ctx.geo
  unfold evaluateWithContext
  rw [deviceProperty_attach]
  dsimp only
  split_ifs with hzone hhas hage hfield
  · rfl
  · rfl
  · rfl
  · exact evaluateCustomField_attach _ _ _ (hcustom.resolve_left fun hne => hne hfield)
  · exact evaluateField_attach _ _ _ _ _

theorem evaluateCondition_geo (h : c.readsLocation = false) (d : Device (conditionEvaluator env))
    (appLists : Option AppListsContext) (geo geo' : Option (ZonesById × LocationsById)) :
    evaluateCondition d c ⟨appLists, geo⟩ = evaluateCondition d c ⟨appLists, geo'⟩ := by
  obtain ⟨field, operand⟩ := c
  simp only [Condition.readsLocation, locationFields, List.contains_cons, Bool.or_eq_false_iff,
    beq_eq_false_iff_ne] at h
  obtain ⟨hzone, hhas, hage, -⟩ := h
  show evaluateWithContext env d.toDeviceCore d.facts field operand appLists geo =
    evaluateWithContext env d.toDeviceCore d.facts field operand appLists geo'
  unfold evaluateWithContext
  simp only [if_neg hzone, if_neg hhas, if_neg hage]

theorem evaluateCondition_location (c : Condition (conditionEvaluator env))
    (d : Device (conditionEvaluator env)) (appLists : Option AppListsContext) (zones : ZonesById)
    {locations locations' : LocationsById} (h : locations d.id = locations' d.id) :
    evaluateCondition d c ⟨appLists, some (zones, locations)⟩ =
      evaluateCondition d c ⟨appLists, some (zones, locations')⟩ := by
  show evaluateWithContext env d.toDeviceCore d.facts c.field c.operand appLists
      (some (zones, locations)) =
    evaluateWithContext env d.toDeviceCore d.facts c.field c.operand appLists
      (some (zones, locations'))
  unfold evaluateWithContext
  simp only [Option.bind_some, Option.any_some, h]

theorem evaluateCondition_noGeo (c : Condition (conditionEvaluator env))
    (d : Device (conditionEvaluator env)) (appLists : Option AppListsContext) (zones : ZonesById)
    {locations : LocationsById} (h : locations d.id = none) :
    evaluateCondition d c ⟨appLists, none⟩ =
      evaluateCondition d c ⟨appLists, some (zones, locations)⟩ := by
  show evaluateWithContext env d.toDeviceCore d.facts c.field c.operand appLists none =
    evaluateWithContext env d.toDeviceCore d.facts c.field c.operand appLists
      (some (zones, locations))
  have hnone : ∀ z operator value, evaluateZone env z none operator value = false := by
    intro z operator value
    unfold evaluateZone
    cases z (textOrEmpty env value) <;> rfl
  unfold evaluateWithContext
  simp only [Option.bind_some, Option.bind_none, Option.any_some, Option.any_none, h, hnone]

end Reads

end AppliverySoar.Compliance
