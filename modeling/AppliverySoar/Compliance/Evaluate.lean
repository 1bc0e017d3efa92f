import Mathlib.Data.List.Basic

/-!
# Devices, conditions and `policyViolated`

The records the compliance evaluator reads and the evaluator itself
(complianceEvaluate.ts, lines 447–461). What a single condition says about a
device is a pure function of the device, the condition, the app lists and the
geofencing data (`evaluateCondition`, lines 122–440); the development is over
an arbitrary one, so that nothing it proves depends on how a field is
compared.
-/

namespace AppliverySoar.Compliance

/-- `NormalizedDevice`, as far as the passes and the engines read it. -/
structure DeviceCore where
  id : String
  displayName : String
  serialNumber : String
  platform : String
  platformDeviceId : String
  riskTier : Option String
  deviceAudiences : List String
  segmentId : Option String
  deriving DecidableEq

/-- What a condition is evaluated with. `Facts` is everything of a normalized
device that only the evaluator reads, `Operand` everything of a condition
but its field; `noFacts`, `noApps`, `noAppLists`, `noZones` and `noLocations`
are a device without attributes, an empty inventory, a workspace without app
lists and without zones, and no known locations; `attachApps` sets
`device.installedApps`. -/
structure Evaluator where
  Facts : Type
  Operand : Type
  Apps : Type
  AppLists : Type
  Zones : Type
  Locations : Type
  noFacts : Facts
  noApps : Apps
  noAppLists : AppLists
  noZones : Zones
  noLocations : Locations
  attachApps : Facts → Apps → Facts
  holds : DeviceCore → Facts → String → Operand → Option AppLists →
    Option (Zones × Locations) → Bool

/-- An element of a policy's `conditions`. -/
structure Condition (E : Evaluator) where
  field : String
  operand : E.Operand

/-- A device with what the evaluator reads. -/
structure Device (E : Evaluator) extends DeviceCore where
  facts : E.Facts

/-- `AppListsContext` and `GeoContext`; either may be `undefined`. -/
structure EvalContext (E : Evaluator) where
  appLists : Option E.AppLists
  geo : Option (E.Zones × E.Locations)

/-- The two fields of a policy (or of a Recovery gate's policy) that
`policyViolated` reads. -/
structure Rule (E : Evaluator) where
  conditions : List (Condition E)
  conditionLogic : String

variable {E : Evaluator}

def evaluateCondition (device : Device E) (c : Condition E) (ctx : EvalContext E) : Bool :=
  E.holds device.toDeviceCore device.facts c.field c.operand ctx.appLists ctx.geo

/-- `policyViolated` (complianceEvaluate.ts, lines 447–461): the matched
conditions; under the logic `all` none unless all of them match. -/
def policyViolated (device : Device E) (rule : Rule E) (ctx : EvalContext E) :
    List (Condition E) :=
  if rule.conditions.isEmpty then []
  else
    let matched := rule.conditions.filter fun c => evaluateCondition device c ctx
    if rule.conditionLogic = "all" then
      if matched.length = rule.conditions.length then matched else []
    else matched

/-- `device.installedApps = apps`. -/
def Device.withApps (device : Device E) (apps : E.Apps) : Device E :=
  { device with facts := E.attachApps device.facts apps }

/-- `conditions.some((c) => fields.includes(c?.field))`. -/
def Rule.usesField (rule : Rule E) (fields : List String) : Bool :=
  rule.conditions.any fun c => fields.contains c.field

/-- The condition fields that read a device's installed apps. -/
def appListFields : List String := ["requiredAppList", "disallowedAppList"]

/-- The condition field that reads a device's location. -/
def geofenceFields : List String := ["geofenceZoneId"]

@[simp] theorem Device.withApps_id (device : Device E) (apps : E.Apps) :
    (device.withApps apps).id = device.id := rfl

/-- A small evaluator to run examples with: a device has one attribute, and a
condition holds when its operand is the attribute's value. -/
def attributeEvaluator : Evaluator where
  Facts := String
  Operand := String
  Apps := Unit
  AppLists := Unit
  Zones := Unit
  Locations := Unit
  noFacts := ""
  noApps := ()
  noAppLists := ()
  noZones := ()
  noLocations := ()
  attachApps facts _ := facts
  holds _ facts _ operand _ _ := facts = operand

end AppliverySoar.Compliance
