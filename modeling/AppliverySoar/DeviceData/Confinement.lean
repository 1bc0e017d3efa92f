import AppliverySoar.DeviceData.Store
import AppliverySoar.Mtls.Identity

/-!
# What a request can reach

A request names a serial number, and whatever certificate it was authenticated
with, the handlers take that serial number. What they read or change is
confined to it.

Results:
* `meets_touches`: every call of a request stays with its workspace, with the
  certificate that authenticates it, with what is stored for the serial number
  that it claims, and with the nonces of its verified tokens.
* `confined_to_claimed`: everything else stays as it was, and two states that
  agree on it agree on it afterwards.
* `other_device_written`: a request authenticated as one device that changes
  what is stored for another.
-/

namespace AppliverySoar.DeviceData

open Async Prog Compliance Js Workflows List Function
open Mtls (MtlsCall MtlsEvent assertMtlsIdentity extractCommonName)

/-! ## Statements -/

/-- The serial number that the route is asked for. -/
def DataRoute.serialNumber : DataRoute → Option String
  | .report payload => payload.map DeviceReportPayload.serialNumber
  | .reportApps payload => payload.map DeviceAppReportPayload.serialNumber
  | .playIntegrityNonce serialNumber => some (String.ofList (trim (serialNumber.getD "").toList))

/-- The request claims to come from the device. -/
def DataRequest.Claims (req : DataRequest) (serialNumber : String) : Prop :=
  req.route.serialNumber = some serialNumber

/-- A token that was verified carries the nonce. -/
def CarriesNonce (es : List NonceEvent) (nonce : String) : Prop :=
  ∃ compactJws verificationKey payload,
    (⟨.compactVerify compactJws verificationKey, .ok payload⟩ : NonceEvent) ∈ es ∧
      tokenNonce payload = some nonce

/-- A call that reads the settings of the workspace, issues a nonce to a claimed
device, or reads or consumes the nonce of a verified token. -/
def TouchesNonce (workspaceSlug : String) (claims : String → Prop) (es : List NonceEvent) :
    NonceCall → Prop
  | .findConfig slug => slug = workspaceSlug
  | .createNonce slug serialNumber _ => slug = workspaceSlug ∧ claims serialNumber
  | .findNonce nonce => CarriesNonce es nonce
  | .consumeNonce id => ∃ nonce row, CarriesNonce es nonce ∧
    (⟨.findNonce nonce, .ok (some row)⟩ : NonceEvent) ∈ es ∧ row.id = id
  | _ => True

/-- A call on the active certificate of the device `cn`. -/
def TouchesCertificate (workspaceSlug cn : String) (es : List MtlsEvent) : MtlsCall → Prop
  | .findActiveCertificate slug serialNumber => slug = workspaceSlug ∧ serialNumber = cn
  | .touchLastSeen id =>
    (⟨.findActiveCertificate workspaceSlug cn, .ok (some id)⟩ : MtlsEvent) ∈ es
  | _ => False

/-- A call that stays with the workspace, with the certificate of `cn`, with what
is stored for the serial number that the request claims, and with the nonces
of its verified tokens. -/
def Touches (req : DataRequest) (cn : String) (es : List DataEvent) : DataCall → Prop
  | .identity c => TouchesCertificate req.workspaceSlug cn (identityLog es) c
  | .nonce c => TouchesNonce req.workspaceSlug req.Claims (nonceLog es) c
  | .newDate => True
  | .getMtlsEnforcementEnabled slug | .findDeviceReportSecret slug
  | .invalidateDevicesCache slug => slug = req.workspaceSlug
  | .findDevicePushData slug serialNumber | .upsertDevicePushData slug serialNumber _ _
  | .serialIndex slug serialNumber | .deletePendingAppReports slug serialNumber
  | .upsertPendingAppReport slug serialNumber _
  | .recordAuditEvent slug _ serialNumber _
  | .triggerEventDrivenReEvaluation slug serialNumber =>
    slug = req.workspaceSlug ∧ req.Claims serialNumber
  | .upsertInstalledAppsSlot slug deviceId _ _ => slug = req.workspaceSlug ∧
    ∃ serialNumber entry, req.Claims serialNumber ∧
      (⟨.serialIndex slug serialNumber, .ok (some entry)⟩ : DataEvent) ∈ es ∧ entry.id = deviceId

/-- mTLS is enforced, and the request was let in as the device `cn`. -/
def AuthenticatedAs (env : Deployment) (req : DataRequest) (cn : String) (es : List DataEvent) :
    Prop :=
  (⟨.getMtlsEnforcementEnabled req.workspaceSlug, .ok true⟩ : DataEvent) ∈ es ∧
    Prog.Steps (assertMtlsIdentity env.mtlsInternalProxySecret req.headers.identity)
      (identityLog es) (.ret (.ok cn))

/-- The states agree on everything but what is stored for the serial numbers
`own` of the workspace, and the rows of the nonces `N`. -/
structure SameOutside (workspaceSlug : String) (own N : String → Prop) (s s' : DataStore) :
    Prop where
  enforced : s'.enforced = s.enforced
  secret : s'.secret = s.secret
  index : s'.index = s.index
  certs : s'.certs.rows = s.certs.rows
  nonces : ∀ row : PlayIntegrityNonce,
    ¬(row.workspaceSlug = workspaceSlug ∧ own row.serialNumber) → ¬N row.nonce →
      (row ∈ s'.nonces.table.rows ↔ row ∈ s.nonces.table.rows)
  pushData : ∀ key, ¬(key.1 = workspaceSlug ∧ own key.2) → s'.pushData key = s.pushData key
  pendingApps : ∀ key, ¬(key.1 = workspaceSlug ∧ own key.2) →
    s'.pendingApps key = s.pendingApps key
  installedApps : ∀ key, (∀ serialNumber entry, own serialNumber →
      (s.index workspaceSlug).lookup serialNumber = some entry → key ≠ (workspaceSlug, entry.id)) →
    s'.installedApps key = s.installedApps key
  audit : ∀ entry : AuditEntry, ¬(entry.workspaceSlug = workspaceSlug ∧ own entry.targetId) →
    s'.audit.count entry = s.audit.count entry

/-! ## The calls of a request -/

section Calls

variable {env : Deployment} {req : DataRequest} {cn : String} {α : Type}

theorem identityLog_snoc (es : List DataEvent) (c : MtlsCall)
    (r : Except ServiceError (MtlsCall.Answer c)) :
    identityLog (es ++ [⟨.identity c, r⟩]) = identityLog es ++ [⟨c, r.map fun a => a⟩] := by
  rw [identityLog, filterMap_append]
  cases r <;> rfl

theorem nonceLog_snoc (es : List DataEvent) (c : NonceCall)
    (r : Except ServiceError (NonceCall.Answer c)) :
    nonceLog (es ++ [⟨.nonce c, r⟩]) = nonceLog es ++ [⟨c, r.map fun a => a⟩] := by
  rw [nonceLog, filterMap_append]
  cases r <;> rfl

theorem mem_snoc (l : List α) (a : α) : a ∈ l ++ [a] :=
  mem_append_right _ (mem_singleton_self a)

variable {claims : String → Prop}

variable {slug serial : String} {es : List NonceEvent} {nonce : String} {slug : String}

theorem touches_issueNonce (hclaims : claims serial) (es : List NonceEvent) :
    (issueNonce slug serial).Meets (World.log _ _)
      (TouchesNonce slug claims) es fun _ _ => True := by
  unfold issueNonce
  refine ⟨rfl, fun config _ => ?_⟩
  match config with
  | .error _ => trivial
  | .ok none => trivial
  | .ok (some config) =>
    show Meets _ _ (if !config.enabled then _ else _) _ _
    split_ifs
    · trivial
    · refine ⟨trivial, fun nonce _ => ?_⟩
      cases nonce with
      | error _ => trivial
      | ok nonce => exact ⟨⟨rfl, hclaims⟩, fun created _ => by cases created <;> trivial⟩

theorem CarriesNonce.snoc {e : NonceEvent}
    (h : CarriesNonce es nonce) : CarriesNonce (es ++ [e]) nonce := by
  obtain ⟨compactJws, key, payload, hmem, hnonce⟩ := h
  exact ⟨compactJws, key, payload, mem_append_left _ hmem, hnonce⟩

theorem touches_consumeIfFresh {slug nonce : String}
    {row : PlayIntegrityNonce} (hcarries : CarriesNonce es nonce)
    (hfound : (⟨.findNonce nonce, .ok (some row)⟩ : NonceEvent) ∈ es) :
    (consumeIfFresh row).Meets (World.log _ _) (TouchesNonce slug claims) es
      (post (fun _ _ => True) fun _ _ => True) := by
  unfold consumeIfFresh
  split_ifs
  · exact ⟨⟨nonce, row, hcarries, hfound, rfl⟩, fun r _ => by cases r <;> trivial⟩
  · trivial

theorem touches_nonceOk (row : PlayIntegrityNonce) (es : List NonceEvent) :
    (nonceOk slug serial row).Meets (World.log _ _)
      (TouchesNonce slug claims) es (post (fun _ es' => es <+: es') fun _ _ => True) := by
  unfold nonceOk
  split_ifs
  · exact Meets.bind (R := fun _ es' => es <+: es')
      ⟨trivial, fun r _ => by cases r with
        | ok _ => exact prefix_append _ _
        | error _ => trivial⟩
      fun _ _ h => h
  · exact prefix_refl _

theorem CarriesNonce.mono {es es' : List NonceEvent} (h : CarriesNonce es nonce)
    (hle : es <+: es') : CarriesNonce es' nonce := by
  obtain ⟨compactJws, key, payload, hmem, hnonce⟩ := h
  exact ⟨compactJws, key, payload, hle.subset hmem, hnonce⟩

theorem touches_redeemNonce {payload : Value}
    (hpayload : ∃ compactJws key,
      (⟨.compactVerify compactJws key, .ok payload⟩ : NonceEvent) ∈ es) :
    (redeemNonce slug serial payload).Meets (World.log _ _)
      (TouchesNonce slug claims) es fun _ _ => True := by
  obtain ⟨compactJws, key, hmem⟩ := hpayload
  unfold redeemNonce
  cases hnonce : tokenNonce payload with
  | none => trivial
  | some nonce =>
    have hcarries : CarriesNonce es nonce := ⟨compactJws, key, payload, hmem, hnonce⟩
    refine ⟨hcarries, fun found _ => ?_⟩
    match found with
    | .error _ => trivial
    | .ok none => trivial
    | .ok (some row) =>
      change Meets _ _ (do
        let ok ← nonceOk slug serial row
        consumeIfFresh row
        return if ok then some (derivedAttributes payload) else none) _ _
      refine Meets.bind (touches_nonceOk row _) fun ok es' hle => ?_
      refine Meets.bind (touches_consumeIfFresh (hcarries.snoc.mono hle)
        (hle.subset (mem_snoc es _))) fun _ _ _ => trivial

theorem touches_decodePayload
    (config : PlayIntegrityConfig) (rawToken : String) (es : List NonceEvent) :
    (decodePayload config rawToken).Meets (World.log _ _) (TouchesNonce slug claims) es
      fun decoded es' => ∀ payload, decoded = .ok payload →
        ∃ compactJws key, (⟨.compactVerify compactJws key, .ok payload⟩ : NonceEvent) ∈ es' := by
  refine ⟨trivial, fun r _ => ?_⟩
  cases r with
  | error e => exact fun _ h => nomatch h
  | ok compactJws =>
    refine ⟨trivial, fun decoded _ payload h => ⟨compactJws, config.verificationKey, ?_⟩⟩
    exact h ▸ mem_snoc _ _

theorem touches_verifyAndDecodeToken
    (serial rawToken : String) (es : List NonceEvent) :
    (verifyAndDecodeToken slug serial rawToken).Meets (World.log _ _)
      (TouchesNonce slug claims) es fun _ _ => True := by
  unfold verifyAndDecodeToken
  refine ⟨rfl, fun found _ => ?_⟩
  match found with
  | .error _ => trivial
  | .ok none => trivial
  | .ok (some config) =>
    show Meets _ _ (if !config.enabled then _ else _) _ _
    split_ifs
    · trivial
    · refine Meets.bind (R := fun decoded es' => ∀ payload, decoded = .ok payload →
        ∃ compactJws key, (⟨.compactVerify compactJws key, .ok payload⟩ : NonceEvent) ∈ es')
        (Meets.attempt (touches_decodePayload config rawToken _)) fun decoded es' h => ?_
      cases decoded with
      | error e => trivial
      | ok payload => exact touches_redeemNonce (h payload rfl)

/-- The headers name the device `cn`, if they name any. -/
def DataRequest.Names (req : DataRequest) (cn : String) : Prop :=
  ∀ rawCn, req.headers.identity.certCn = some rawCn → cn = extractCommonName rawCn

theorem touches_assertMtlsIdentity (hcn : req.Names cn) (secret : String) (es : List MtlsEvent) :
    (assertMtlsIdentity secret req.headers.identity).Meets (World.log _ _)
      (TouchesCertificate req.workspaceSlug cn) es
      (post (fun cn' _ => cn' = cn) fun _ _ => True) := by
  rcases Mtls.assertMtlsIdentity_cases secret req.headers.identity with
    ⟨e, hend⟩ | ⟨rawCn, hraw, hlookup⟩
  · rw [hend]
    trivial
  · rw [hlookup, ← hcn rawCn hraw]
    refine ⟨⟨rfl, rfl⟩, fun found _ => ?_⟩
    match found with
    | .error _ => trivial
    | .ok none => trivial
    | .ok (some id) =>
      refine ⟨mem_snoc es _, fun touched _ => ?_⟩
      cases touched <;> rfl

theorem touches_of_calls {p : DeviceData α}
    (h : p.Calls fun c => ∀ es, Touches req cn es c) (es : List DataEvent) :
    p.Meets (World.log _ _) (Touches req cn) es fun _ _ => True :=
  (((Prog.ensures_iff_meets _ _ es).mp h).weaken fun es' _ hc => hc es').mono fun _ _ _ => trivial

theorem touches_verifyDeviceIdentity (hcn : req.Names cn) (es : List DataEvent) :
    (verifyDeviceIdentity env.mtlsInternalProxySecret req.headers req.workspaceSlug).Meets
      (World.log _ _) (Touches req cn) es fun _ _ => True := by
  unfold verifyDeviceIdentity
  refine Meets.call_bind rfl (fun _ _ => trivial) fun enforced _ => ?_
  cases enforced with
  | true =>
    have hidentity : ((assertMtlsIdentity env.mtlsInternalProxySecret req.headers.identity).embed
        identityCalls).Meets (World.log _ _) (Touches req cn)
        (es ++ [⟨.getMtlsEnforcementEnabled req.workspaceSlug, .ok true⟩]) _ :=
      Meets.embed_log identityLog_snoc (fun _ _ h => h)
        (touches_assertMtlsIdentity hcn env.mtlsInternalProxySecret (identityLog _))
    exact Meets.bind (R := fun _ _ => True)
      (hidentity.mono fun r _ _ => by cases r <;> trivial) fun _ _ _ => trivial
  | false =>
    exact touches_of_calls (calls_verifyDeviceReportSecret _ _ fun _ => rfl) _

theorem touches_attributesToStore (payload : DeviceReportPayload) (es : List DataEvent) :
    (attributesToStore env.runtime req.workspaceSlug payload).Meets (World.log _ _)
      (Touches req cn) es fun _ _ => True := by
  unfold attributesToStore
  simp only []
  cases truthy payload.playIntegrityToken with
  | none => trivial
  | some token =>
    refine Meets.bind (R := fun _ _ => True) (Meets.attempt ?_) fun derived _ _ => ?_
    · exact (Meets.embed_log nonceLog_snoc (fun _ _ h => h)
        (touches_verifyAndDecodeToken payload.serialNumber token (nonceLog es))).mono
          fun _ _ _ => trivial
    · match derived with
      | .error _ => trivial
      | .ok none => trivial
      | .ok (some _) => trivial

theorem touches_reportDeviceData {payload : DeviceReportPayload}
    (hclaims : req.Claims payload.serialNumber) (es : List DataEvent) :
    (reportDeviceData env.runtime req.workspaceSlug payload).Meets (World.log _ _)
      (Touches req cn) es fun _ _ => True := by
  unfold reportDeviceData
  split_ifs
  · trivial
  refine Meets.bind (R := fun _ _ => True) ((touches_attributesToStore payload es).mono
    fun r _ _ => by cases r <;> trivial) fun attributes es' _ => touches_of_calls ?_ es'
  exact Calls.bind (calls_ask fun _ => trivial) fun _ =>
    Calls.bind (calls_ask fun _ => ⟨rfl, hclaims⟩) fun _ =>
    Calls.bind (calls_ask fun _ => ⟨rfl, hclaims⟩) fun _ =>
    Calls.bind (calls_ask fun _ => ⟨rfl, hclaims⟩) fun _ =>
    Calls.bind (calls_ask fun _ => ⟨rfl, hclaims⟩) fun _ =>
    Calls.bind (calls_ask fun _ => rfl) fun _ =>
    Calls.bind (calls_ask fun _ => ⟨rfl, hclaims⟩) fun _ => calls_ret _

theorem touches_storeApps (cn : String) {serialNumber : String} (hclaims : req.Claims serialNumber)
    {matched : Option DeviceEntry} {es : List DataEvent}
    (hmatched : (⟨.serialIndex req.workspaceSlug serialNumber, .ok matched⟩ : DataEvent) ∈ es)
    (entry : InstalledAppsEntry) (nowIso : ℕ) :
    (reportDeviceApps.storeApps req.workspaceSlug serialNumber
      (truthy (matched.map DeviceEntry.id)) entry nowIso).Meets (World.log _ _)
      (Touches req cn) es fun _ _ => True := by
  cases hid : truthy (matched.map DeviceEntry.id) with
  | none =>
    refine touches_of_calls ?_ es
    exact Calls.bind (calls_ask fun _ => ⟨rfl, hclaims⟩) fun _ => calls_ret _
  | some deviceId =>
    obtain ⟨device, rfl, rfl⟩ := Option.map_eq_some_iff.mp (truthy_eq_some.mp hid).1
    refine Meets.call_bind ⟨rfl, serialNumber, device, hclaims, hmatched, rfl⟩
      (fun _ _ => trivial) fun _ _ => touches_of_calls ?_ _
    exact Calls.bind (calls_ask fun _ => ⟨rfl, hclaims⟩) fun _ =>
      Calls.bind (calls_ask fun _ => rfl) fun _ => calls_ret _

theorem touches_reportDeviceApps {payload : DeviceAppReportPayload}
    (hclaims : req.Claims payload.serialNumber) (es : List DataEvent) :
    (reportDeviceApps env.runtime env.collation req.workspaceSlug payload).Meets (World.log _ _)
      (Touches req cn) es fun _ _ => True := by
  unfold reportDeviceApps
  split_ifs
  · trivial
  refine Meets.call_bind trivial (fun _ _ => trivial) fun nowIso _ => ?_
  refine Meets.call_bind ⟨rfl, hclaims⟩ (fun _ _ => trivial) fun matched _ => ?_
  have hstored := touches_storeApps cn hclaims
    (mem_snoc (es ++ [⟨.newDate, .ok nowIso⟩]) ⟨.serialIndex _ _, .ok matched⟩)
    (appsEntry env.runtime env.collation payload nowIso) nowIso
  refine Meets.bind (R := fun _ _ => True)
    (hstored.mono fun r _ _ => by cases r <;> trivial) fun matchedFlag es' _ => ?_
  refine touches_of_calls ?_ es'
  exact Calls.bind (calls_ask fun _ => ⟨rfl, hclaims⟩) fun _ => calls_ret _

/-- Every call of a request stays with what the request claims. -/
theorem meets_touches (env : Deployment) (hcn : req.Names cn) :
    (req.handle env).Meets (World.log _ _) (Touches req cn) [] fun _ _ => True := by
  unfold DataRequest.handle handleData
  refine Meets.bind (R := fun _ _ => True) ((touches_verifyDeviceIdentity hcn []).mono
    fun r _ _ => by cases r <;> trivial) fun _ es _ => ?_
  cases hroute : req.route with
  | report payload =>
    cases payload with
    | none => trivial
    | some payload =>
      have hclaims : req.Claims payload.serialNumber := by
        rw [DataRequest.Claims, hroute]
        rfl
      exact meets_discard (touches_reportDeviceData hclaims es)
  | reportApps payload =>
    cases payload with
    | none => trivial
    | some payload =>
      have hclaims : req.Claims payload.serialNumber := by
        rw [DataRequest.Claims, hroute]
        rfl
      exact meets_discard (touches_reportDeviceApps hclaims es)
  | playIntegrityNonce serialNumber =>
    have hclaims : req.Claims (String.ofList (trim (serialNumber.getD "").toList)) := by
      rw [DataRequest.Claims, hroute]
      rfl
    simp only []
    generalize String.ofList (trim (serialNumber.getD "").toList) = serial at hclaims ⊢
    split_ifs
    · trivial
    · exact meets_discard (Meets.embed_log nonceLog_snoc (fun _ _ h => h)
        (touches_issueNonce hclaims (nonceLog es)))

end Calls

/-! ## What stays as it was -/

section Frame

variable {workspaceSlug : String} {own N : String → Prop} {s s' s'' : DataStore}
  {es : List DataEvent} {req : DataRequest} {cn : String} {c : DataCall}

theorem SameOutside.refl (s : DataStore) : SameOutside workspaceSlug own N s s :=
  ⟨rfl, rfl, rfl, rfl, fun _ _ _ => Iff.rfl, fun _ _ => rfl, fun _ _ => rfl, fun _ _ => rfl,
    fun _ _ => rfl⟩

theorem SameOutside.symm (h : SameOutside workspaceSlug own N s s') :
    SameOutside workspaceSlug own N s' s where
  enforced := h.enforced.symm
  secret := h.secret.symm
  index := h.index.symm
  certs := h.certs.symm
  nonces row hrow hN := (h.nonces row hrow hN).symm
  pushData key hkey := (h.pushData key hkey).symm
  pendingApps key hkey := (h.pendingApps key hkey).symm
  installedApps key hkey := (h.installedApps key (h.index ▸ hkey)).symm
  audit entry hentry := (h.audit entry hentry).symm

theorem SameOutside.trans (h : SameOutside workspaceSlug own N s s')
    (h' : SameOutside workspaceSlug own N s' s'') : SameOutside workspaceSlug own N s s'' where
  enforced := h'.enforced.trans h.enforced
  secret := h'.secret.trans h.secret
  index := h'.index.trans h.index
  certs := h'.certs.trans h.certs
  nonces row hrow hN := (h'.nonces row hrow hN).trans (h.nonces row hrow hN)
  pushData key hkey := (h'.pushData key hkey).trans (h.pushData key hkey)
  pendingApps key hkey := (h'.pendingApps key hkey).trans (h.pendingApps key hkey)
  installedApps key hkey :=
    (h'.installedApps key (h.index ▸ hkey)).trans (h.installedApps key hkey)
  audit entry hentry := (h'.audit entry hentry).trans (h.audit entry hentry)

/-- What a request has read stands in the tables. -/
structure ReadFrom (s : DataStore) (es : List DataEvent) : Prop where
  found : ∀ nonce row, (⟨.findNonce nonce, .ok (some row)⟩ : NonceEvent) ∈ nonceLog es →
    s.nonces.HasRow nonce row.id
  indexed : ∀ slug serialNumber entry,
    (⟨.serialIndex slug serialNumber, .ok (some entry)⟩ : DataEvent) ∈ es →
      (s.index slug).lookup serialNumber = some entry

theorem index_next (c : DataCall) (r : Except ServiceError (DataCall.Answer c)) :
    (s.next c r).index = s.index := by
  cases c <;> cases r <;> rfl

theorem nonces_next (c : DataCall) (r : Except ServiceError (DataCall.Answer c)) :
    (s.next c r).nonces = nonceWorld.after s.nonces (nonceLog [⟨c, r⟩]) := by
  cases c <;> cases r <;> rfl

theorem ReadFrom.next
    {r : Except ServiceError (DataCall.Answer c)} (h : ReadFrom s es) (hmay : s.may c r) :
    ReadFrom (s.next c r) (es ++ [⟨c, r⟩]) where
  found nonce row hfound := by
    rw [nonceLog_append] at hfound
    rw [nonces_next]
    rcases mem_append.mp hfound with hfound | hfound
    · exact hasRow_after _ (h.found nonce row hfound)
    · refine hasRow_after _ ?_
      cases c with
      | nonce c =>
        cases mem_singleton.mp hfound
        obtain ⟨hrow, hnonce⟩ := NonceTable.find_eq_some (Eq.symm hmay)
        exact ⟨row, hrow, hnonce, rfl⟩
      | _ => cases hfound
  indexed slug serialNumber entry hindexed := by
    rw [index_next]
    rcases mem_append.mp hindexed with hindexed | hindexed
    · exact h.indexed slug serialNumber entry hindexed
    · cases mem_singleton.mp hindexed
      exact hmay.symm

theorem NonceTable.eq_of_id (t : NonceTable) {a b : PlayIntegrityNonce} (ha : a ∈ t.rows)
    (hb : b ∈ t.rows) (h : a.id = b.id) : a = b :=
  inj_on_of_nodup_map t.ids ha hb h

/-- The rows that no claimed device and no carried nonce has are left alone. -/
theorem rows_next {c : NonceCall}
    {r : Except ServiceError (NonceCall.Answer c)} (hread : ReadFrom s es)
    (htouch : Touches req cn es (.nonce c))
    (hN : ∀ nonce, CarriesNonce (nonceLog es) nonce → N nonce) (row : PlayIntegrityNonce)
    (hrow : ¬(row.workspaceSlug = req.workspaceSlug ∧ req.Claims row.serialNumber))
    (hnonce : ¬N row.nonce) :
    row ∈ (s.nonces.tableNext ⟨c, r⟩).rows ↔ row ∈ s.nonces.table.rows := by
  cases r with
  | error e => cases c <;> exact Iff.rfl
  | ok a =>
    cases c with
    | createNonce slug serialNumber nonce =>
      obtain ⟨rfl, hclaims⟩ := htouch
      simp only [NonceStore.tableNext, NonceTable.insert]
      split_ifs
      · rw [mem_append, mem_singleton]
        refine or_iff_left fun heq => hrow ?_
        rw [heq]
        exact ⟨rfl, hclaims⟩
      · exact Iff.rfl
    | consumeNonce id =>
      obtain ⟨nonce, found, hcarries, hfound, rfl⟩ := htouch
      obtain ⟨kept, hkept, hkeptNonce, hkeptId⟩ := hread.found nonce found hfound
      -- The consumed row has a carried nonce, and `row` has not.
      have hne : ∀ row' ∈ s.nonces.table.rows, row'.nonce = row.nonce → row'.id ≠ found.id := by
        intro row' hrow' hsame hid
        have heq := s.nonces.table.eq_of_id hrow' hkept (hid.trans hkeptId.symm)
        rw [heq, hkeptNonce] at hsame
        exact hnonce (hsame ▸ hN nonce hcarries)
      constructor
      · intro hmem
        obtain ⟨row', hrow', rfl⟩ := mem_map.mp hmem
        have hid := hne row' hrow' (consume_nonce ..).symm
        rwa [PlayIntegrityNonce.consume, if_neg hid]
      · intro hmem
        refine mem_map.mpr ⟨row, hmem, ?_⟩
        rw [PlayIntegrityNonce.consume, if_neg (hne row hmem rfl)]
    | _ => exact Iff.rfl

/-- **Step lemma**: a call that stays with what the request claims leaves the
rest as it was. -/
theorem outside_next
    {r : Except ServiceError (DataCall.Answer c)} (hread : ReadFrom s es)
    (htouch : Touches req cn es c) (hN : ∀ nonce, CarriesNonce (nonceLog es) nonce → N nonce) :
    SameOutside req.workspaceSlug req.Claims N s (s.next c r) := by
  cases c with
  | identity c =>
    refine { SameOutside.refl s with certs := ?_ }
    cases c with
    | findActiveCertificate slug serialNumber => cases r <;> rfl
    | touchLastSeen id => cases r <;> rfl
    | _ => exact absurd htouch id
  | nonce c =>
    have hsame : SameOutside req.workspaceSlug req.Claims N s s := SameOutside.refl s
    exact { hsame with nonces := rows_next hread htouch hN }
  | upsertDevicePushData slug serialNumber record reportedAt =>
    obtain ⟨rfl, hclaims⟩ := htouch
    cases r with
    | error e => exact SameOutside.refl s
    | ok a =>
      refine { SameOutside.refl s with pushData := fun key hkey => update_of_ne ?_ _ _ }
      rintro rfl
      exact hkey ⟨rfl, hclaims⟩
  | deletePendingAppReports slug serialNumber =>
    obtain ⟨rfl, hclaims⟩ := htouch
    cases r with
    | error e => exact SameOutside.refl s
    | ok a =>
      refine { SameOutside.refl s with
        pendingApps := fun key hkey => update_of_ne ?_ _ _ }
      rintro rfl
      exact hkey ⟨rfl, hclaims⟩
  | upsertPendingAppReport slug serialNumber entry =>
    obtain ⟨rfl, hclaims⟩ := htouch
    cases r with
    | error e => exact SameOutside.refl s
    | ok a =>
      refine { SameOutside.refl s with
        pendingApps := fun key hkey => update_of_ne ?_ _ _ }
      rintro rfl
      exact hkey ⟨rfl, hclaims⟩
  | upsertInstalledAppsSlot slug deviceId entry reportedAt =>
    obtain ⟨rfl, serialNumber, device, hclaims, hread', rfl⟩ := htouch
    cases r with
    | error e => exact SameOutside.refl s
    | ok a =>
      exact { SameOutside.refl s with
        installedApps := fun key hkey => update_of_ne
          (hkey serialNumber device hclaims (hread.indexed _ _ _ hread')) _ _ }
  | recordAuditEvent slug action targetId targetName =>
    obtain ⟨rfl, hclaims⟩ := htouch
    cases r with
    | error e => exact SameOutside.refl s
    | ok a =>
      refine { SameOutside.refl s with audit := fun entry hentry => ?_ }
      show (s.audit ++ [_]).count entry = s.audit.count entry
      rw [count_append, count_singleton, if_neg]
      · rfl
      · intro heq
        rw [← eq_of_beq heq] at hentry
        exact hentry ⟨rfl, hclaims⟩
  | _ => cases r <;> exact SameOutside.refl s

/-- **Run lemma.** -/
theorem outside_after (es : List DataEvent)
    (hacc : dataWorld.Accepts s es)
    (htouch : ∀ pre e post, es = pre ++ e :: post → Touches req cn pre e.call)
    (hN : ∀ nonce, CarriesNonce (nonceLog es) nonce → N nonce) :
    ReadFrom (dataWorld.after s es) es ∧
      SameOutside req.workspaceSlug req.Claims N s (dataWorld.after s es) := by
  induction es using reverseRecOn with
  | nil =>
    exact ⟨⟨fun _ _ h => absurd h not_mem_nil, fun _ _ _ h => absurd h not_mem_nil⟩,
      SameOutside.refl s⟩
  | append_singleton es e ih =>
    rw [World.accepts_append] at hacc
    have hN' : ∀ nonce, CarriesNonce (nonceLog es) nonce → N nonce := fun nonce h => hN nonce
      (h.mono (nonceLog_append es [e] ▸ prefix_append _ _))
    obtain ⟨hread, hsame⟩ := ih hacc.1 (fun pre e' post h => htouch pre e' (post ++ [e]) (by
      rw [h, append_assoc, cons_append])) hN'
    rw [World.after_append]
    exact ⟨hread.next hacc.2.1, hsame.trans (outside_next hread (htouch es e [] rfl) hN')⟩

end Frame

/-! ## One request -/

section Request

variable {env : Deployment} {req : DataRequest} {cn : String} {s : DataStore}
  {es : List DataEvent} {rest : DeviceData Unit}

/-- Whoever is let in as `cn` has named it. -/
theorem names_of_authenticated (h : AuthenticatedAs env req cn es) : req.Names cn := by
  obtain ⟨-, hsteps⟩ := h
  intro rawCn hraw
  rcases Mtls.assertMtlsIdentity_cases env.mtlsInternalProxySecret req.headers.identity with
    ⟨e, hend⟩ | ⟨rawCn', hraw', -⟩
  · rw [hend] at hsteps
    generalize identityLog es = asked at hsteps
    cases hsteps
  · obtain rfl := Option.some.inj (hraw.symm.trans hraw')
    have hnames : req.Names (extractCommonName rawCn) := fun raw hraw'' =>
      congrArg extractCommonName (Option.some.inj (hraw.symm.trans hraw''))
    exact (touches_assertMtlsIdentity hnames _ []).post_of_steps hsteps (World.log_accepts _ _)

theorem touches_of_steps (hcn : req.Names cn) (hsteps : Prog.Steps (req.handle env) es rest) :
    ∀ pre e post, es = pre ++ e :: post → Touches req cn pre e.call := by
  rintro pre e post rfl
  have htouch := (meets_touches env hcn).ok_of_append hsteps (World.log_accepts _ _)
  rwa [World.log_after, nil_append] at htouch

/-- **Main theorem**: whoever a request is authenticated as, it reads and changes
what is stored for the serial number that it claims, and the nonces of its
verified tokens. -/
theorem confined_to_claimed (hsteps : Prog.Steps (req.handle env) es rest)
    (hacc : dataWorld.Accepts s es) (hauth : AuthenticatedAs env req cn es) :
    (∀ pre e post, es = pre ++ e :: post → Touches req cn pre e.call) ∧
    SameOutside req.workspaceSlug req.Claims (CarriesNonce (nonceLog es)) s
      (dataWorld.after s es) ∧
    ∀ N s' es' rest', Prog.Steps (req.handle env) es' rest' → dataWorld.Accepts s' es' →
      (∀ nonce, CarriesNonce (nonceLog es) nonce ∨ CarriesNonce (nonceLog es') nonce → N nonce) →
      SameOutside req.workspaceSlug req.Claims N s s' →
      SameOutside req.workspaceSlug req.Claims N (dataWorld.after s es)
        (dataWorld.after s' es') := by
  have hcn := names_of_authenticated hauth
  have htouch := touches_of_steps hcn hsteps
  refine ⟨htouch, (outside_after es hacc htouch fun _ h => h).2, ?_⟩
  intro N s' es' rest' hsteps' hacc' hN hsame
  have hleft := (outside_after es hacc htouch fun nonce h => hN nonce (.inl h)).2
  have hright := (outside_after es' hacc' (touches_of_steps hcn hsteps')
    fun nonce h => hN nonce (.inr h)).2
  exact (hleft.symm.trans hsame).trans hright

end Request

/-! ## A device that speaks for another one -/

/-- A request of `SN1` through the proxy to the workspace `acme`. -/
def fromSN1 (route : DataRoute) : DataRequest where
  headers := ⟨⟨some "acme", some "proxy", some "SUCCESS", some "CN=SN1"⟩, none⟩
  route := route

/-- A report for a device. -/
def reportFor (serialNumber : String) : DataRoute :=
  .report (some { platform := "windows", serialNumber })

/-- What is exchanged for a report that `SN1` sends. -/
def exchanged (serialNumber : String) : List DataEvent :=
  (((fromSN1 (reportFor serialNumber)).handle plainDeployment).execute dataWorld DataStore.answer
    freshTables).1

theorem steps_exchanged (serial : String) :
    ∃ r, Prog.Steps ((fromSN1 (reportFor serial)).handle plainDeployment)
      (exchanged serial) (.ret r) :=
  ⟨_, steps_execute _ _⟩

theorem accepts_exchanged (serial : String) :
    dataWorld.Accepts freshTables (exchanged serial) :=
  accepts_execute data_may_answer _ _

/-- `SN1` reports for itself. -/
theorem confined_to_claimed_own :
    AuthenticatedAs plainDeployment (fromSN1 (reportFor "SN1")) "SN1" (exchanged "SN1") ∧
    SameOutside "acme" (fromSN1 (reportFor "SN1")).Claims
      (CarriesNonce (nonceLog (exchanged "SN1"))) freshTables
      (dataWorld.after freshTables (exchanged "SN1")) := by
  have hauth : AuthenticatedAs plainDeployment (fromSN1 (reportFor "SN1")) "SN1"
      (exchanged "SN1") :=
    ⟨mem_of_getElem? (i := 0) rfl, .head (.head (.refl _))⟩
  obtain ⟨r, hsteps⟩ := steps_exchanged "SN1"
  exact ⟨hauth, (confined_to_claimed hsteps (accepts_exchanged "SN1") hauth).2.1⟩

/-- `SN1` reports for `SN2`: what is stored for `SN2` changes. -/
theorem other_device_written : ¬∀ (env : Deployment) (req : DataRequest) (cn : String)
    (s : DataStore) (es : List DataEvent) (rest : DeviceData Unit),
    Prog.Steps (req.handle env) es rest → dataWorld.Accepts s es → AuthenticatedAs env req cn es →
      SameOutside req.workspaceSlug (fun serialNumber => serialNumber = cn)
        (CarriesNonce (nonceLog es)) s (dataWorld.after s es) := by
  intro hall
  have hauth : AuthenticatedAs plainDeployment (fromSN1 (reportFor "SN2")) "SN1"
      (exchanged "SN2") :=
    ⟨mem_of_getElem? (i := 0) rfl, .head (.head (.refl _))⟩
  obtain ⟨r, hsteps⟩ := steps_exchanged "SN2"
  have hsame := (hall _ _ _ _ _ _ hsteps (accepts_exchanged "SN2") hauth).pushData
    ("acme", "SN2") (fun h => absurd h.2 (by decide))
  have hstored : ((dataWorld.after freshTables (exchanged "SN2")).pushData
      ("acme", "SN2")).isSome = true := by decide +kernel
  rw [hsame] at hstored
  cases hstored

end AppliverySoar.DeviceData
