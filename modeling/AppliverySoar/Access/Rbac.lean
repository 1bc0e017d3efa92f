import Mathlib.Tactic.Common

/-!
# The permission gate (middleware/rbac.middleware.ts)

`requirePermission` judges a request by the access that was cached when the
caller last resolved it for the workspace in the header. Levels are stored as
free strings; the gate looks them up in the three-entry rank table and
compares what it finds with `<`.

Results:
* `requirePermission_ok_iff`: when the gate lets a cached access through.
-/

namespace AppliverySoar.Access

/-! ## Areas, levels and actions -/

/-- `SOAR_FEATURE_AREAS`. -/
inductive FeatureArea
  | devices | compliance | workflows | cases | integrations | reporting | settings | auditLog
  deriving DecidableEq, Repr

/-- The area as the source spells it. -/
def FeatureArea.name : FeatureArea → String
  | .devices => "devices"
  | .compliance => "compliance"
  | .workflows => "workflows"
  | .cases => "cases"
  | .integrations => "integrations"
  | .reporting => "reporting"
  | .settings => "settings"
  | .auditLog => "auditLog"

inductive FeatureLevel
  | none | read | manage
  deriving DecidableEq, Repr

/-- The level as the source spells it. -/
def FeatureLevel.name : FeatureLevel → String
  | .none => "none"
  | .read => "read"
  | .manage => "manage"

/-- The entries of `FEATURE_ACCESS_LEVELS` (line 43). -/
def FeatureLevel.rank : FeatureLevel → ℕ
  | .none => 0
  | .read => 1
  | .manage => 2

/-- `SOAR_RISKY_ACTIONS`. -/
inductive RiskyAction
  | canDeletePolicyOrWorkflow | canRunDestructiveWorkflow | canEditIntegrationSecrets
  | canExportOrImportConfig | canBulkTriage | canManageMtlsCA
  deriving DecidableEq, Repr

/-- The action as the source spells it. -/
def RiskyAction.name : RiskyAction → String
  | .canDeletePolicyOrWorkflow => "canDeletePolicyOrWorkflow"
  | .canRunDestructiveWorkflow => "canRunDestructiveWorkflow"
  | .canEditIntegrationSecrets => "canEditIntegrationSecrets"
  | .canExportOrImportConfig => "canExportOrImportConfig"
  | .canBulkTriage => "canBulkTriage"
  | .canManageMtlsCA => "canManageMtlsCA"

/-! ## The rank table -/

/-- What a property lookup on an object literal gives: a number of its own, a
member of `Object.prototype`, or `undefined`. -/
inductive Lookup
  | own (n : ℕ)
  | inherited
  | undefined
  deriving DecidableEq, Repr

/-- The members of `Object.prototype`. -/
def objectPrototype : List String :=
  ["constructor", "__defineGetter__", "__defineSetter__", "hasOwnProperty", "__lookupGetter__",
    "__lookupSetter__", "isPrototypeOf", "propertyIsEnumerable", "toString", "valueOf",
    "__proto__", "toLocaleString"]

/-- `FEATURE_ACCESS_LEVELS[level]` for any string. -/
def featureAccessLevels (level : String) : Lookup :=
  if level = "none" then .own 0
  else if level = "read" then .own 1
  else if level = "manage" then .own 2
  else if objectPrototype.contains level then .inherited
  else .undefined

/-- `a < b`. Neither `undefined` nor a member of `Object.prototype` converts to
a number, and a comparison with `NaN` is false. -/
def Lookup.lt : Lookup → Lookup → Bool
  | .own a, .own b => a < b
  | _, _ => false

@[simp] theorem featureAccessLevels_name (l : FeatureLevel) :
    featureAccessLevels l.name = .own l.rank := by
  cases l <;> decide

theorem featureAccessLevels_own {level : String} {n : ℕ}
    (h : featureAccessLevels level = .own n) : ∃ l : FeatureLevel, level = l.name ∧ l.rank = n := by
  unfold featureAccessLevels at h
  split_ifs at h with h₀ h₁ h₂
  · exact ⟨.none, h₀, Lookup.own.inj h⟩
  · exact ⟨.read, h₁, Lookup.own.inj h⟩
  · exact ⟨.manage, h₂, Lookup.own.inj h⟩

/-- What is not below a required rank is an equal or higher rank, or no rank. -/
theorem lt_eq_false_iff (level : String) (need : ℕ) :
    (featureAccessLevels level).lt (.own need) = false ↔
      ∀ l : FeatureLevel, level = l.name → need ≤ l.rank := by
  constructor
  · intro h l hl
    rw [hl, featureAccessLevels_name] at h
    simpa [Lookup.lt] using h
  · intro h
    cases hlk : featureAccessLevels level with
    | own n =>
      obtain ⟨l, hl, hn⟩ := featureAccessLevels_own hlk
      have hle : need ≤ n := hn ▸ h l hl
      simp only [Lookup.lt, decide_eq_false_iff_not]
      omega
    | inherited => rfl
    | undefined => rfl

/-! ## Roles and resolved access -/

/-- `SoarRoleRecord`. `featureAccess` and `riskyActions` are JSON objects:
what is stored under a key, if anything. -/
structure SoarRoleRecord where
  id : String
  name : String
  description : Option String
  featureAccess : String → Option String
  riskyActions : String → Option Bool
  appliveryTagValues : List String
  segmentIds : List String

structure ResolvedAccess where
  allowed : Bool
  isSuperAdmin : Bool
  role : Option SoarRoleRecord
  collaboratorRole : Option String
  matchedTagValue : Option String
  deniedReason : Option String

/-- A response other than the route's own. -/
structure HttpError where
  status : ℕ
  detail : String
  deriving DecidableEq, Repr

theorem bind_eq_ok {ε α β : Type} {x : Except ε α} {f : α → Except ε β} {b : β}
    (h : (x >>= f) = .ok b) : ∃ a, x = .ok a ∧ f a = .ok b := by
  cases x with
  | error e => exact absurd h (by simp [bind, Except.bind])
  | ok a => exact ⟨a, rfl, h⟩

/-- `String.prototype.toLowerCase` and `trim`. -/
structure TextOps where
  lower : String → String
  trim : String → String

/-! ## The access cache -/

/-- `ACCESS_CACHE_TTL_MS`. -/
def accessCacheTtlMs : ℕ := 12 * 60 * 60 * 1000

/-- A value of `accessCache`. -/
structure CacheEntry where
  resolvedAtMs : ℕ
  access : ResolvedAccess

abbrev AccessCache := String → Option CacheEntry

/-- `cacheKey` (lines 80–82). -/
def cacheKey (t : TextOps) (workspaceSlug email : String) : String :=
  workspaceSlug ++ ":" ++ t.lower email

/-- `getCachedAccess` (lines 84–91) at time `now`. -/
def getCachedAccess (t : TextOps) (cache : AccessCache) (now : ℕ) (workspaceSlug email : String) :
    Option ResolvedAccess :=
  match cache (cacheKey t workspaceSlug email) with
  | none => none
  | some entry => if now - entry.resolvedAtMs > accessCacheTtlMs then none else some entry.access

/-- `setCachedAccess` (lines 93–95) at time `now`. -/
def setCachedAccess (t : TextOps) (cache : AccessCache) (now : ℕ) (workspaceSlug email : String)
    (access : ResolvedAccess) : AccessCache :=
  Function.update cache (cacheKey t workspaceSlug email) (some ⟨now, access⟩)

theorem mem_of_getCachedAccess {t : TextOps} {cache : AccessCache} {now : ℕ}
    {slug email : String} {a : ResolvedAccess}
    (h : getCachedAccess t cache now slug email = some a) :
    ∃ entry, cache (cacheKey t slug email) = some entry ∧ entry.access = a := by
  unfold getCachedAccess at h
  split at h
  · exact absurd h (by simp)
  · rename_i entry hentry
    split_ifs at h
    exact ⟨entry, hentry, Option.some.inj h⟩

/-! ## The gate -/

/-- `RequirePermissionOptions`. -/
structure PermissionOptions where
  area : Option FeatureArea := none
  level : Option FeatureLevel := none
  action : Option RiskyAction := none
  superAdminOnly : Bool := false

/-- `options.level ?? "read"`. -/
def PermissionOptions.need (o : PermissionOptions) : FeatureLevel :=
  o.level.getD .read

/-- `req.header("X-Workspace-Slug") || "global"`; an absent header is `""`. -/
def workspaceOf (slugHeader : String) : String :=
  if slugHeader = "" then "global" else slugHeader

/-- `roleFeatureLevel` (lines 97–99). -/
def roleFeatureLevel (role : Option SoarRoleRecord) (area : FeatureArea) : String :=
  match role with
  | none => "none"
  | some r => (r.featureAccess area.name).getD "none"

/-- `role?.riskyActions?.[action]` read as a condition. -/
def roleAllows (role : Option SoarRoleRecord) (action : RiskyAction) : Bool :=
  match role with
  | none => false
  | some r => (r.riskyActions action.name).getD false

/-- The area check (lines 139–145). -/
def checkArea (o : PermissionOptions) (role : Option SoarRoleRecord) : Except HttpError Unit :=
  match o.area with
  | none => .ok ()
  | some area =>
    if (featureAccessLevels (roleFeatureLevel role area)).lt (featureAccessLevels o.need.name) then
      .error ⟨403, "Your role doesn't have " ++ o.need.name ++ " access to " ++ area.name ++ "."⟩
    else .ok ()

/-- The action check (lines 146–150). -/
def checkAction (o : PermissionOptions) (role : Option SoarRoleRecord) : Except HttpError Unit :=
  match o.action with
  | none => .ok ()
  | some action =>
    if roleAllows role action then .ok ()
    else .error
      ⟨403, "Your role isn't permitted to perform this action (" ++ action.name ++ ")."⟩

/-- `requirePermission` (lines 116–154), given what `getCachedAccess` found;
`ok` is `next()`. -/
def requirePermission (o : PermissionOptions) (cached : Option ResolvedAccess) :
    Except HttpError Unit :=
  match cached with
  | none => .error ⟨403, "Access not resolved for this workspace yet — switch workspace or sign in again to refresh permissions."⟩
  | some access =>
    if !access.allowed then
      .error ⟨403, access.deniedReason.getD "No SOAR role assigned for this workspace."⟩
    else if access.isSuperAdmin then .ok ()
    else if o.superAdminOnly then
      .error ⟨403, "This action is restricted to the workspace Super Admin (the Applivery workspace Owner)."⟩
    else do
      checkArea o access.role
      checkAction o access.role

variable (o : PermissionOptions)

theorem checkArea_ok_iff (role : Option SoarRoleRecord) :
    checkArea o role = .ok () ↔ ∀ area, o.area = some area →
      ∀ l : FeatureLevel, roleFeatureLevel role area = l.name → o.need.rank ≤ l.rank := by
  unfold checkArea
  cases harea : o.area with
  | none => simp
  | some area =>
    have hlt := lt_eq_false_iff (roleFeatureLevel role area) o.need.rank
    rw [← featureAccessLevels_name] at hlt
    simp only [Option.some.injEq, forall_eq']
    rw [← hlt]
    by_cases hl : (featureAccessLevels (roleFeatureLevel role area)).lt
        (featureAccessLevels o.need.name) = true <;> simp

theorem checkAction_ok_iff (role : Option SoarRoleRecord) :
    checkAction o role = .ok () ↔
      ∀ action, o.action = some action → roleAllows role action = true := by
  unfold checkAction
  cases o.action with
  | none => simp
  | some action => by_cases h : roleAllows role action = true <;> simp [h]

/-- The gate lets a request through exactly if there is a cached access that
is allowed and either super admin or (where that is not demanded) passes
both checks. -/
theorem requirePermission_ok_iff (cached : Option ResolvedAccess) :
    requirePermission o cached = .ok () ↔ ∃ access, cached = some access ∧ access.allowed = true ∧
      (access.isSuperAdmin = true ∨ o.superAdminOnly = false ∧
        checkArea o access.role = .ok () ∧ checkAction o access.role = .ok ()) := by
  cases cached with
  | none => simp [requirePermission]
  | some access =>
    have hseq : (checkArea o access.role >>= fun _ => checkAction o access.role) = .ok () ↔
        checkArea o access.role = .ok () ∧ checkAction o access.role = .ok () := by
      cases checkArea o access.role with
      | error e => simp [bind, Except.bind]
      | ok u => simp [bind, Except.bind]
    simp only [requirePermission, Option.some.injEq, exists_eq_left']
    cases access.allowed <;> cases access.isSuperAdmin <;> cases o.superAdminOnly <;> simp [hseq]

end AppliverySoar.Access
