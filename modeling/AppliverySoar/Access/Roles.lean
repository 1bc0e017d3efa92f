import AppliverySoar.Access.Rbac

/-!
# Roles and the access they give (roles.service.ts, rbac.service.ts)

The role routes store whatever levels a payload names, `resolveSoarAccess`
picks the role mapped to a collaborator's tag, and its answer is cached under
the workspace and the email until it expires. The state here is the role
table, the access cache and the clock; a run is any sequence of requests to
the role routes and the two routes that resolve access.

Results:
* `Reach.cached_role`: a cached access that names a role is allowed, is not
  super admin, and its role holds the levels and flags of a stored payload.
* `admitted_soundly_iff`: the gate judges such a caller soundly exactly if the
  stored level for the area is one of the three names (or the request is
  refused before the level matters).
-/

namespace AppliverySoar.Access

open List

/-! ## Role records -/

/-- A row of the role table. -/
structure RoleRow where
  id : String
  workspaceSlug : String
  name : String
  description : Option String
  featureAccess : String → Option String
  riskyActions : String → Option Bool
  appliveryTagValues : List String
  segmentIds : List String

/-- `toSoarRoleRecord` (lines 20–30). -/
def toSoarRoleRecord (r : RoleRow) : SoarRoleRecord where
  id := r.id
  name := r.name
  description := r.description
  featureAccess := r.featureAccess
  riskyActions := r.riskyActions
  appliveryTagValues := r.appliveryTagValues
  segmentIds := r.segmentIds

/-- A body that `rolePayloadSchema` accepts; every field but `name` may be
left out. -/
structure RoleBody where
  name : String
  description : Option String := none
  featureAccess : Option (String → Option String) := none
  riskyActions : Option (String → Option Bool) := none
  appliveryTagValues : Option (List String) := none
  segmentIds : Option (List String) := none

structure RolePayload where
  name : String
  description : String
  featureAccess : String → Option String
  riskyActions : String → Option Bool
  appliveryTagValues : List String
  segmentIds : List String

/-- `rolePayloadSchema.parse` (roles.schemas.ts, lines 4–11) with its defaults. -/
def rolePayloadSchema (body : RoleBody) : RolePayload where
  name := body.name
  description := body.description.getD ""
  featureAccess := body.featureAccess.getD fun _ => none
  riskyActions := body.riskyActions.getD fun _ => none
  appliveryTagValues := body.appliveryTagValues.getD []
  segmentIds := body.segmentIds.getD []

/-- The `data` of `prisma.role.create` and `prisma.role.update`. -/
def RolePayload.toRow (payload : RolePayload) (id workspaceSlug : String) : RoleRow where
  id := id
  workspaceSlug := workspaceSlug
  name := payload.name
  description := some payload.description
  featureAccess := payload.featureAccess
  riskyActions := payload.riskyActions
  appliveryTagValues := payload.appliveryTagValues
  segmentIds := payload.segmentIds

/-! ## Resolving a collaborator -/

/-- A raw collaborator record: its `role`, and for each other field the
elements of its value (one, if it is no array) as `String` shows them. -/
structure Collaborator where
  role : Option String
  field : String → Option (List String)

/-- `COLLABORATOR_TAG_FIELD_CANDIDATES`. -/
def collaboratorTagFieldCandidates : List String :=
  ["tags", "tag", "label", "labels", "group", "groups", "roleTag", "customTag", "segmentRole"]

/-- `extractCollaboratorTagCandidates` (lines 25–37). -/
def extractCollaboratorTagCandidates (t : TextOps) (raw : Collaborator) : List String :=
  collaboratorTagFieldCandidates.foldl
    (fun out field =>
      match raw.field field with
      | none => out
      | some candidates =>
        candidates.foldl
          (fun out c => if t.trim c ≠ "" ∧ t.trim c ∉ out then out ++ [t.trim c] else out) out)
    []

/-- The first role with a tag value among `tagCandidates`, with that value
(lines 206–220). -/
def matchRole (t : TextOps) (tagCandidates : List String) :
    List SoarRoleRecord → Option (SoarRoleRecord × String)
  | [] => none
  | role :: roles =>
    match role.appliveryTagValues.find? fun v => tagCandidates.contains (t.lower (t.trim v)) with
    | some tagValue => some (role, tagValue)
    | none => matchRole t tagCandidates roles

/-- `resolveSoarAccess` (lines 178–233), given the record that
`findSelfCollaborator` found. -/
def resolveSoarAccess (t : TextOps) (collaborator : Option Collaborator)
    (roles : List SoarRoleRecord) : ResolvedAccess :=
  match collaborator with
  | none =>
    { allowed := false, isSuperAdmin := false, role := none, collaboratorRole := none,
      matchedTagValue := none,
      deniedReason :=
        some "No Applivery Collaborator record found for this account in this workspace." }
  | some collaborator =>
    let collaboratorRole := t.lower (collaborator.role.getD "")
    if collaboratorRole = "owner" then
      { allowed := true, isSuperAdmin := true, role := none,
        collaboratorRole := some collaboratorRole, matchedTagValue := none, deniedReason := none }
    else
      let tagCandidates := (extractCollaboratorTagCandidates t collaborator).map t.lower
      match matchRole t tagCandidates roles with
      | some (role, tagValue) =>
        { allowed := true, isSuperAdmin := false, role := some role,
          collaboratorRole := some collaboratorRole, matchedTagValue := some tagValue,
          deniedReason := none }
      | none =>
        { allowed := false, isSuperAdmin := false, role := none,
          collaboratorRole := some collaboratorRole, matchedTagValue := none,
          deniedReason :=
            some "No SOAR Role is mapped to this collaborator's tag yet. Ask a Super Admin (the Applivery workspace Owner) to configure one under Settings > Roles." }

variable {t : TextOps} {roles : List SoarRoleRecord}

theorem mem_of_matchRole {tags : List String}
    {role : SoarRoleRecord} {v : String} (h : matchRole t tags roles = some (role, v)) :
    role ∈ roles := by
  induction roles with
  | nil => exact absurd h (by simp [matchRole])
  | cons r roles ih =>
    rw [matchRole] at h
    split at h
    · rw [← (Prod.mk.inj (Option.some.inj h)).1]
      exact mem_cons_self
    · exact mem_cons_of_mem r (ih h)

variable {r : SoarRoleRecord}

/-- An access that names a role is allowed, is not super admin, and the role
is one of those it was resolved against. -/
theorem resolveSoarAccess_role {collaborator : Option Collaborator}
    (h : (resolveSoarAccess t collaborator roles).role = some r) :
    (resolveSoarAccess t collaborator roles).allowed = true ∧
      (resolveSoarAccess t collaborator roles).isSuperAdmin = false ∧ r ∈ roles := by
  unfold resolveSoarAccess at h ⊢
  cases collaborator with
  | none => exact absurd h (by simp)
  | some c =>
    dsimp only at h ⊢
    split_ifs at h ⊢ with howner
    split at h
    · rename_i role v hm
      rw [← Option.some.inj h]
      exact ⟨rfl, rfl, mem_of_matchRole hm⟩
    · exact absurd h (by simp)

/-! ## The routes -/

/-- The role table, the access cache and `Date.now()`. -/
structure AccessState where
  roles : List RoleRow
  cache : AccessCache
  now : ℕ

/-- Nothing stored, nothing resolved. -/
def AccessState.empty : AccessState :=
  ⟨[], fun _ => none, 0⟩

/-- Who sends a request: the X-Workspace-Slug and Authorization headers (`""`
if absent) and the email of the dashboard session. -/
structure Caller where
  slugHeader : String
  authorization : String
  email : String

/-- The access the gate finds for a caller. -/
def AccessState.cachedFor (t : TextOps) (s : AccessState) (c : Caller) : Option ResolvedAccess :=
  getCachedAccess t s.cache s.now (workspaceOf c.slugHeader) c.email

/-- The `SoarRoleRecord`s of a workspace. -/
def AccessState.rolesOf (s : AccessState) (workspaceSlug : String) : List SoarRoleRecord :=
  (s.roles.filter fun r => r.workspaceSlug = workspaceSlug).map toSoarRoleRecord

/-- `createRole` (lines 39–61); `id` is the one the table gives the row. -/
def createRole (s : AccessState) (workspaceSlug : String) (payload : RolePayload) (id : String) :
    AccessState :=
  { s with roles := s.roles ++ [payload.toRow id workspaceSlug] }

/-- `prisma.role.findFirst({ where: { id, workspaceSlug } })`. -/
def AccessState.findRole (s : AccessState) (workspaceSlug roleId : String) : Option RoleRow :=
  s.roles.find? fun r => r.id = roleId ∧ r.workspaceSlug = workspaceSlug

/-- `updateRole` (lines 64–93). -/
def updateRole (s : AccessState) (workspaceSlug roleId : String) (payload : RolePayload) :
    Except HttpError AccessState :=
  match s.findRole workspaceSlug roleId with
  | none => .error ⟨404, "Role not found"⟩
  | some _ =>
    .ok { s with roles := s.roles.map fun r =>
      if r.id = roleId then payload.toRow roleId r.workspaceSlug else r }

/-- `deleteRole` (lines 96–112). -/
def deleteRole (s : AccessState) (workspaceSlug roleId : String) : AccessState :=
  match s.findRole workspaceSlug roleId with
  | none => s
  | some _ => { s with roles := s.roles.filter fun r => r.id ≠ roleId }

/-- What `testAccess` (lines 170–187) and `POST /api/auth/resolve-access`
(auth.controller.ts, lines 43–63) do: resolve against the roles of the
workspace and cache the answer. -/
def resolveAndCache (t : TextOps) (s : AccessState) (workspaceSlug email : String)
    (collaborator : Option Collaborator) : AccessState :=
  let access := resolveSoarAccess t collaborator (s.rolesOf workspaceSlug)
  { s with cache := setCachedAccess t s.cache s.now workspaceSlug email access }

/-- The requests that read or write roles and access. `collaborator` is what
`findSelfCollaborator` finds. -/
inductive RoleRequest
  | create (body : RoleBody) (id : String)
  | update (roleId : String) (body : RoleBody)
  | delete (roleId : String)
  | testAccess (email : String) (collaborator : Option Collaborator)
  | resolveAccess (collaborator : Option Collaborator)

/-- The gate on all role routes. -/
def superAdminOnly : PermissionOptions :=
  { superAdminOnly := true }

/-- The credentials that the two resolving routes need. -/
def checkCredentials (c : Caller) : Except HttpError Unit :=
  if c.authorization = "" ∨ c.slugHeader = "" then .error ⟨401, "Missing credentials"⟩ else .ok ()

/-- A request of a caller with a valid session (roles.controller.ts,
auth.controller.ts). -/
def handle (t : TextOps) (s : AccessState) (c : Caller) : RoleRequest → Except HttpError AccessState
  | .create body id => do
    requirePermission superAdminOnly (s.cachedFor t c)
    return createRole s (workspaceOf c.slugHeader) (rolePayloadSchema body) id
  | .update roleId body => do
    requirePermission superAdminOnly (s.cachedFor t c)
    updateRole s (workspaceOf c.slugHeader) roleId (rolePayloadSchema body)
  | .delete roleId => do
    requirePermission superAdminOnly (s.cachedFor t c)
    return deleteRole s (workspaceOf c.slugHeader) roleId
  | .testAccess email collaborator => do
    requirePermission superAdminOnly (s.cachedFor t c)
    checkCredentials c
    return resolveAndCache t s c.slugHeader email collaborator
  | .resolveAccess collaborator => do
    checkCredentials c
    return resolveAndCache t s c.slugHeader c.email collaborator

/-- The payload that a request stores when it is answered with success. -/
def RoleRequest.payload? : RoleRequest → Option RolePayload
  | .create body _ => some (rolePayloadSchema body)
  | .update _ body => some (rolePayloadSchema body)
  | _ => none

/-! ## Reachable states -/

/-- `Reach t s ps`: from nothing stored, requests of any callers (and time
passing) have led to `s` and stored the payloads `ps`. -/
inductive Reach (t : TextOps) : AccessState → List RolePayload → Prop
  | empty : Reach t .empty []
  | wait {s : AccessState} {ps : List RolePayload} (ms : ℕ) (h : Reach t s ps) :
      Reach t { s with now := s.now + ms } ps
  | request {s s' : AccessState} {ps : List RolePayload} {c : Caller} (rq : RoleRequest)
      (h : Reach t s ps) (hs : handle t s c rq = .ok s') : Reach t s' (ps ++ rq.payload?.toList)

/-- The role holds the levels and the flags of one of the payloads. -/
def FromPayload (ps : List RolePayload) (featureAccess : String → Option String)
    (riskyActions : String → Option Bool) : Prop :=
  ∃ p ∈ ps, featureAccess = p.featureAccess ∧ riskyActions = p.riskyActions

variable {ps : List RolePayload} {s : AccessState} {a : ResolvedAccess} {c : Caller}

theorem FromPayload.append {f : String → Option String}
    {a : String → Option Bool} (h : FromPayload ps f a) (qs : List RolePayload) :
    FromPayload (ps ++ qs) f a := by
  obtain ⟨p, hp, hf⟩ := h
  exact ⟨p, mem_append_left qs hp, hf⟩

/-- What a run keeps: every row and every cached role comes from a stored
payload, and an access that names a role is allowed and not super admin. -/
structure Sound (s : AccessState) (ps : List RolePayload) : Prop where
  rows : ∀ r ∈ s.roles, FromPayload ps r.featureAccess r.riskyActions
  cached : ∀ key entry r, s.cache key = some entry → entry.access.role = some r →
    entry.access.allowed = true ∧ entry.access.isSuperAdmin = false ∧
      FromPayload ps r.featureAccess r.riskyActions

theorem Sound.store {s s' : AccessState} {ps qs : List RolePayload} (h : Sound s ps)
    (hcache : s'.cache = s.cache)
    (hrows : ∀ r ∈ s'.roles, r ∈ s.roles ∨ FromPayload qs r.featureAccess r.riskyActions) :
    Sound s' (ps ++ qs) := by
  constructor
  · intro r hr
    rcases hrows r hr with hold | ⟨p, hp, hnew⟩
    · exact (h.rows r hold).append qs
    · exact ⟨p, mem_append_right ps hp, hnew⟩
  · intro key entry r hentry hrole
    rw [hcache] at hentry
    obtain ⟨hallowed, hadmin, hfrom⟩ := h.cached key entry r hentry hrole
    exact ⟨hallowed, hadmin, hfrom.append qs⟩

theorem Sound.createRole (h : Sound s ps)
    (slug : String) (payload : RolePayload) (id : String) :
    Sound (createRole s slug payload id) (ps ++ [payload]) := by
  refine h.store rfl fun r hr => ?_
  rcases mem_append.mp hr with hold | hnew
  · exact .inl hold
  · rw [mem_singleton.mp hnew]
    exact .inr ⟨payload, mem_singleton_self payload, rfl, rfl⟩

theorem Sound.updateRole {s s' : AccessState} (h : Sound s ps)
    {slug roleId : String} {payload : RolePayload}
    (hs : updateRole s slug roleId payload = .ok s') : Sound s' (ps ++ [payload]) := by
  unfold Access.updateRole at hs
  split at hs
  · exact absurd hs (by simp)
  · rw [← Except.ok.inj hs]
    refine h.store rfl fun r hr => ?_
    obtain ⟨r₀, hr₀, hr⟩ := mem_map.mp hr
    split_ifs at hr with hid
    · rw [← hr]
      exact .inr ⟨payload, mem_singleton_self payload, rfl, rfl⟩
    · exact .inl (hr ▸ hr₀)

theorem Sound.deleteRole (h : Sound s ps)
    (slug roleId : String) : Sound (deleteRole s slug roleId) ps := by
  unfold Access.deleteRole
  split
  · exact h
  · refine ⟨fun r hr => h.rows r (mem_filter.mp hr).1, h.cached⟩

theorem Sound.resolveAndCache (h : Sound s ps)
    (t : TextOps) (slug email : String) (collaborator : Option Collaborator) :
    Sound (resolveAndCache t s slug email collaborator) ps := by
  refine ⟨h.rows, fun key entry r hentry hrole => ?_⟩
  simp only [Access.resolveAndCache, setCachedAccess, Function.update_apply] at hentry
  split_ifs at hentry
  · -- the entry is the one just cached
    rw [← Option.some.inj hentry] at hrole ⊢
    obtain ⟨hallowed, hadmin, hmem⟩ := resolveSoarAccess_role hrole
    refine ⟨hallowed, hadmin, ?_⟩
    obtain ⟨row, hrow, hr⟩ := mem_map.mp hmem
    rw [← hr]
    exact h.rows row (mem_filter.mp hrow).1
  · exact h.cached key entry r hentry hrole

theorem Sound.handle {s s' : AccessState} (h : Sound s ps) {rq : RoleRequest} (hs : handle t s c rq = .ok s') :
    Sound s' (ps ++ rq.payload?.toList) := by
  cases rq with
  | create body id =>
    obtain ⟨_, -, hs⟩ := bind_eq_ok hs
    rw [← Except.ok.inj hs]
    exact h.createRole _ _ id
  | update roleId body =>
    obtain ⟨_, -, hs⟩ := bind_eq_ok hs
    exact h.updateRole hs
  | delete roleId =>
    obtain ⟨_, -, hs⟩ := bind_eq_ok hs
    rw [← Except.ok.inj hs]
    simpa [RoleRequest.payload?] using h.deleteRole _ roleId
  | testAccess email collaborator =>
    obtain ⟨_, -, hs⟩ := bind_eq_ok hs
    obtain ⟨_, -, hs⟩ := bind_eq_ok hs
    rw [← Except.ok.inj hs]
    simpa [RoleRequest.payload?] using h.resolveAndCache t _ email collaborator
  | resolveAccess collaborator =>
    obtain ⟨_, -, hs⟩ := bind_eq_ok hs
    rw [← Except.ok.inj hs]
    simpa [RoleRequest.payload?] using h.resolveAndCache t _ _ collaborator

theorem Reach.sound (h : Reach t s ps) : Sound s ps := by
  induction h with
  | empty => exact ⟨fun r hr => absurd hr not_mem_nil, fun _ _ _ he => absurd he (by simp [AccessState.empty])⟩
  | wait ms _ ih => exact ⟨ih.rows, ih.cached⟩
  | request rq _ hs ih => exact ih.handle hs

theorem Reach.cached_role (h : Reach t s ps)
    (ha : s.cachedFor t c = some a) (hr : a.role = some r) :
    a.allowed = true ∧ a.isSuperAdmin = false ∧ FromPayload ps r.featureAccess r.riskyActions := by
  obtain ⟨entry, hentry, hacc⟩ := mem_of_getCachedAccess ha
  rw [← hacc] at hr ⊢
  exact h.sound.cached _ entry r hentry hr

/-! ## What the gate grants -/

/-- The role stores one of the three levels for the required area, at least as
high as the required one, and the flag of the required action is set. -/
def Grants (r : SoarRoleRecord) (o : PermissionOptions) : Prop :=
  (∀ area, o.area = some area → ∃ level : FeatureLevel,
    r.featureAccess area.name = some level.name ∧ o.need.rank ≤ level.rank) ∧
  ∀ action, o.action = some action → r.riskyActions action.name = some true

/-- A request that passes at the required level is granted by the role, and it
would pass at every lower level as well. -/
def JudgedSoundly (cached : Option ResolvedAccess) (r : SoarRoleRecord) (o : PermissionOptions) :
    Prop :=
  (requirePermission o cached = .ok () → Grants r o) ∧
  ∀ low : FeatureLevel, low.rank ≤ o.need.rank → requirePermission o cached = .ok () →
    requirePermission { o with level := some low } cached = .ok ()

/-- The level for the required area is one of the three names (or missing,
where more than `none` is required), unless the request is refused
whatever the level is. -/
def LevelRecognised (r : SoarRoleRecord) (o : PermissionOptions) : Prop :=
  o.superAdminOnly = true ∨
  (∃ action, o.action = some action ∧ r.riskyActions action.name ≠ some true) ∨
  ∀ area, o.area = some area →
    (∃ level : FeatureLevel, r.featureAccess area.name = some level.name) ∨
      r.featureAccess area.name = none ∧ 0 < o.need.rank

theorem roleAllows_iff (r : SoarRoleRecord) (action : RiskyAction) :
    roleAllows (some r) action = true ↔ r.riskyActions action.name = some true := by
  cases hflag : r.riskyActions action.name <;> simp [roleAllows, hflag]

theorem requirePermission_role_iff
    (hr : a.role = some r) (hallowed : a.allowed = true) (hadmin : a.isSuperAdmin = false)
    (o : PermissionOptions) :
    requirePermission o (some a) = .ok () ↔ o.superAdminOnly = false ∧
      checkArea o (some r) = .ok () ∧
      ∀ action, o.action = some action → r.riskyActions action.name = some true := by
  rw [requirePermission_ok_iff]
  simp only [Option.some.injEq, exists_eq_left', hallowed, hadmin, hr, checkAction_ok_iff,
    roleAllows_iff, true_and, Bool.false_eq_true, false_or]

/-- Raising the required level never admits what the lower level rejects. -/
theorem requirePermission_mono {o : PermissionOptions} {low : FeatureLevel}
    (hlow : low.rank ≤ o.need.rank) (h : requirePermission o (some a) = .ok ()) :
    requirePermission { o with level := some low } (some a) = .ok () := by
  rw [requirePermission_ok_iff] at h ⊢
  obtain ⟨access, hacc, hallowed, hcase⟩ := h
  refine ⟨access, hacc, hallowed, ?_⟩
  rcases hcase with hadmin | ⟨honly, harea, haction⟩
  · exact .inl hadmin
  · refine .inr ⟨honly, ?_, haction⟩
    rw [checkArea_ok_iff] at harea ⊢
    intro area hreq l hl
    exact Nat.le_trans hlow (harea area hreq l hl)

/-- **Main theorem.** In every reachable state, for every caller whose cached
access names a role and for every gate: the role is one that the role
routes stored, and the gate judges the caller soundly exactly if the level
it meets is recognised. -/
theorem admitted_soundly_iff {t : TextOps} {s : AccessState} {ps : List RolePayload}
    (h : Reach t s ps) {c : Caller} {a : ResolvedAccess} {r : SoarRoleRecord}
    (ha : s.cachedFor t c = some a) (hr : a.role = some r) (o : PermissionOptions) :
    FromPayload ps r.featureAccess r.riskyActions ∧
      (JudgedSoundly (s.cachedFor t c) r o ↔ LevelRecognised r o) := by
  obtain ⟨hallowed, hadmin, hfrom⟩ := h.cached_role ha hr
  have hgate := requirePermission_role_iff hr hallowed hadmin o
  refine ⟨hfrom, ?_⟩
  rw [ha]
  constructor
  · intro hsound
    by_contra hbad
    simp only [LevelRecognised, not_or, not_exists, not_and, not_not, not_forall] at hbad
    obtain ⟨honly, haction, area, harea, hlevel, hmissing⟩ := hbad
    -- a level that is none of the three names passes every comparison
    have hpass : requirePermission o (some a) = .ok () := by
      refine hgate.mpr ⟨by simpa using honly, ?_, haction⟩
      rw [checkArea_ok_iff]
      intro area' harea' l hl
      rw [harea] at harea'
      rw [← Option.some.inj harea'] at hl
      cases hst : r.featureAccess area.name with
      | none =>
        have hneed := hmissing hst
        omega
      | some level =>
        refine absurd ?_ (hlevel l)
        rw [hst]
        simpa [roleFeatureLevel, hst] using hl
    obtain ⟨level, hst, -⟩ := (hsound.1 hpass).1 area harea
    exact hlevel level hst
  · intro hlevel
    refine ⟨fun hpass => ?_, fun low hlow hpass => requirePermission_mono hlow hpass⟩
    obtain ⟨honly, harea, haction⟩ := hgate.mp hpass
    refine ⟨fun area hreq => ?_, haction⟩
    rw [checkArea_ok_iff] at harea
    rcases hlevel with hon | ⟨action, hact, hflag⟩ | hlevel
    · rw [hon] at honly
      exact absurd honly (by simp)
    · exact absurd (haction action hact) hflag
    · rcases hlevel area hreq with ⟨level, hst⟩ | ⟨hst, hneed⟩
      · exact ⟨level, hst, harea area hreq level (by simp [roleFeatureLevel, hst])⟩
      · -- a missing level counts as `none`, which is below what is required
        have hzero := harea area hreq .none (by simp [roleFeatureLevel, hst, FeatureLevel.name])
        have hrank : FeatureLevel.none.rank = 0 := rfl
        omega

/-! ### One role, one operator -/

/-- Text that is lower case and trimmed already. -/
def plainText : TextOps :=
  ⟨id, id⟩

/-- The owner of the workspace and a collaborator tagged `ops`. -/
def owner : Caller := ⟨"acme", "Bearer o", "owner@acme.test"⟩

@[inherit_doc owner]
def operator : Caller := ⟨"acme", "Bearer p", "operator@acme.test"⟩

/-- Their collaborator records. -/
def ownerRecord : Collaborator := ⟨some "owner", fun _ => none⟩

@[inherit_doc ownerRecord]
def operatorRecord : Collaborator :=
  ⟨some "viewer", fun field => if field = "tags" then some ["ops"] else none⟩

/-- A role for the tag `ops` with `level` stored for the settings area. -/
def opsRole (level : String) : RoleBody where
  name := "Operators"
  featureAccess := some fun area => if area = "settings" then some level else none
  appliveryTagValues := some ["ops"]

/-- The owner signs in and creates the role, then the operator signs in. -/
def opsState (level : String) : AccessState :=
  let s₁ := resolveAndCache plainText .empty "acme" owner.email (some ownerRecord)
  let s₂ := createRole s₁ "acme" (rolePayloadSchema (opsRole level)) "r1"
  resolveAndCache plainText s₂ "acme" operator.email (some operatorRecord)

theorem reach_opsState (level : String) :
    Reach plainText (opsState level) [rolePayloadSchema (opsRole level)] :=
  have hsignIn := Reach.empty.request (c := owner) (.resolveAccess (some ownerRecord)) rfl
  have hcreate := hsignIn.request (c := owner) (.create (opsRole level) "r1") rfl
  hcreate.request (c := operator) (.resolveAccess (some operatorRecord)) rfl

/-- Manage access to the settings area. -/
def settingsManage : PermissionOptions :=
  { area := some .settings, level := some .manage }

theorem admitted_soundly_iff_ops :
    ∃ a r, (opsState "read").cachedFor plainText operator = some a ∧ a.role = some r ∧
      FromPayload [rolePayloadSchema (opsRole "read")] r.featureAccess r.riskyActions ∧
      (JudgedSoundly ((opsState "read").cachedFor plainText operator) r settingsManage ↔
        LevelRecognised r settingsManage) :=
  ⟨_, _, rfl, rfl, admitted_soundly_iff (reach_opsState "read") rfl rfl settingsManage⟩

/-- The stored level `admin` is none of the three, and passes as `manage`. -/
theorem unrecognised_level_admitted :
    Reach plainText (opsState "admin") [rolePayloadSchema (opsRole "admin")] ∧
    ∃ a r, (opsState "admin").cachedFor plainText operator = some a ∧ a.role = some r ∧
      r.featureAccess "settings" = some "admin" ∧
      requirePermission settingsManage (some a) = .ok () ∧
      ¬JudgedSoundly ((opsState "admin").cachedFor plainText operator) r settingsManage := by
  refine ⟨reach_opsState "admin", _, _, rfl, rfl, rfl, by decide, fun hsound => ?_⟩
  obtain ⟨level, hlevel, -⟩ := (hsound.1 (by decide)).1 .settings rfl
  have hname : "admin" = level.name := Option.some.inj hlevel
  revert hname
  cases level <;> decide

end AppliverySoar.Access
