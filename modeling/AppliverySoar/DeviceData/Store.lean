import AppliverySoar.DeviceData.NonceUse
import AppliverySoar.DeviceData.Report
import AppliverySoar.Mtls.CertStore

/-!
# What is stored of the devices

The tables that the device routes read and write, each keyed as in the
database, with the certificates and the nonces, and the system in which any
number of requests run at the same time.
-/

namespace AppliverySoar.DeviceData

open Async Compliance Js Workflows
open Mtls (CertStore)

/-- What is kept of an audit event. -/
structure AuditEntry where
  workspaceSlug : String
  action : String
  targetId : String
  targetName : String
  deriving DecidableEq

/-- The tables. The keys are a workspace and a serial number, for
`installedApps` a workspace and a device id; `index` is the cached serial
index of a workspace, empty where nothing is cached. -/
structure DataStore where
  enforced : String → Bool
  secret : String → Option String
  certs : CertStore
  nonces : NonceStore
  index : String → List (String × DeviceEntry)
  pushData : String × String → Option PushRecord
  pendingApps : String × String → Option InstalledAppsEntry
  installedApps : String × String → Option InstalledAppsEntry
  audit : List AuditEntry

/-- Queries answer what is stored. -/
def DataStore.may (s : DataStore) (c : DataCall) (r : Except ServiceError (DataCall.Answer c)) :
    Prop :=
  match (⟨c, r⟩ : DataEvent) with
  | ⟨.identity c, r⟩ => s.certs.may c r
  | ⟨.nonce c, r⟩ => s.nonces.may c r
  | ⟨.getMtlsEnforcementEnabled workspaceSlug, .ok enforced⟩ =>
    enforced = s.enforced workspaceSlug
  | ⟨.findDeviceReportSecret workspaceSlug, .ok secret⟩ => secret = s.secret workspaceSlug
  | ⟨.findDevicePushData workspaceSlug deviceId, .ok record⟩ =>
    record = s.pushData (workspaceSlug, deviceId)
  | ⟨.serialIndex workspaceSlug serialNumber, .ok found⟩ =>
    found = (s.index workspaceSlug).lookup serialNumber
  | ⟨.serialIndex .., .error _⟩ => False
  | _ => True

/-- What an answered call leaves. -/
def DataStore.next (s : DataStore) (c : DataCall) (r : Except ServiceError (DataCall.Answer c)) :
    DataStore :=
  match (⟨c, r⟩ : DataEvent) with
  | ⟨.identity c, r⟩ => { s with certs := s.certs.next c r }
  | ⟨.nonce c, r⟩ => { s with nonces := s.nonces.next c r }
  | ⟨.upsertDevicePushData workspaceSlug deviceId record _, .ok _⟩ =>
    { s with pushData := Function.update s.pushData (workspaceSlug, deviceId) (some record) }
  | ⟨.upsertInstalledAppsSlot workspaceSlug deviceId entry _, .ok _⟩ =>
    { s with installedApps :=
        Function.update s.installedApps (workspaceSlug, deviceId) (some entry) }
  | ⟨.deletePendingAppReports workspaceSlug deviceId, .ok _⟩ =>
    { s with pendingApps := Function.update s.pendingApps (workspaceSlug, deviceId) none }
  | ⟨.upsertPendingAppReport workspaceSlug deviceId entry, .ok _⟩ =>
    { s with pendingApps := Function.update s.pendingApps (workspaceSlug, deviceId) (some entry) }
  | ⟨.recordAuditEvent workspaceSlug action targetId targetName, .ok _⟩ =>
    { s with audit := s.audit ++ [⟨workspaceSlug, action, targetId, targetName⟩] }
  | _ => s

/-- The tables as the functions see them. -/
def dataWorld : World dataSig ServiceError DataStore :=
  ⟨DataStore.may, DataStore.next⟩

/-- What does not change from request to request. -/
structure Deployment where
  runtime : Runtime
  collation : Collation
  mtlsInternalProxySecret : String

/-- A request to one of the routes. -/
structure DataRequest where
  headers : DeviceHeaders
  route : DataRoute

/-- The workspace that a request names. -/
def DataRequest.workspaceSlug (req : DataRequest) : String :=
  Mtls.workspaceOf req.headers.identity.workspaceSlug

/-- What a request runs. -/
def DataRequest.handle (env : Deployment) (req : DataRequest) : DeviceData Unit :=
  handleData env.runtime env.collation env.mtlsInternalProxySecret req.headers req.route

/-- The requests over the tables. -/
def dataSystem (env : Deployment) : System dataSig ServiceError DataStore DataRequest where
  world := dataWorld
  body := DataRequest.handle env
  starts _ _ := []

/-- A label of a run. -/
abbrev DataLabel := Label dataSig ServiceError DataRequest

/-! ## The calls of the services -/

/-- What was exchanged with the tables of the Play Integrity service. -/
def nonceLog (es : List DataEvent) : List NonceEvent :=
  es.filterMap fun
    | ⟨.nonce c, r⟩ => some ⟨c, r⟩
    | _ => none

/-- What was exchanged with the table of certificates. -/
def identityLog (es : List DataEvent) : List Mtls.MtlsEvent :=
  es.filterMap fun
    | ⟨.identity c, r⟩ => some ⟨c, r⟩
    | _ => none

/-- The calls of the Play Integrity service. -/
def DataCall.isNonce : DataCall → Bool
  | .nonce _ => true
  | _ => false

theorem nonceLog_append (es fs : List DataEvent) :
    nonceLog (es ++ fs) = nonceLog es ++ nonceLog fs :=
  List.filterMap_append

variable {es : List DataEvent}

theorem nonceLog_eq_nil (h : ∀ e ∈ es, e.call.isNonce = false) : nonceLog es = [] := by
  refine List.filterMap_eq_nil_iff.mpr fun e he => ?_
  obtain ⟨c, r⟩ := e
  have hc := h _ he
  cases c with
  | nonce c => cases hc
  | _ => rfl

/-- A run of an embedded call of the service is a run of the service. -/
theorem steps_of_embed {α : Type} {p : Nonces α} {fs : List DataEvent} {r : Except ServiceError α}
    (h : Prog.Steps (p.embed nonceCalls) fs (.ret r)) : Prog.Steps p (nonceLog fs) (.ret r) := by
  induction p generalizing fs with
  | ret r' =>
    cases h
    exact .refl _
  | await c k ih =>
    cases h with
    | @head _ _ a es _ hrest =>
      have hid : Except.map (nonceCalls.answer c) a = a := by cases a <;> rfl
      have hsteps := ih _ hrest
      rw [hid] at hsteps
      exact .head hsteps

variable {okc : DataCall → Prop}

theorem calls_ask {c : DataCall} (h : okc c) :
    (ask c : DeviceData _).Calls okc :=
  Prog.calls_call h

theorem calls_verifyDeviceReportSecret (slug : String)
    (provided : Option String) (h : okc (.findDeviceReportSecret slug)) :
    (verifyDeviceReportSecret slug provided).Calls okc := by
  unfold verifyDeviceReportSecret
  refine Prog.Calls.bind (calls_ask h) fun stored => ?_
  cases stored with
  | none => exact Prog.calls_ret _
  | some secret =>
    cases truthy provided with
    | none => exact Prog.calls_ret _
    | some given => exact Prog.Calls.guard fun _ => Prog.calls_ret _

/-- `await p` whose value is not used. -/
theorem meets_discard {α : Type} {p : DeviceData α} {ok : List DataEvent → DataCall → Prop}
    {Q : Except ServiceError α → List DataEvent → Prop} (h : p.Meets (World.log _ _) ok es Q) :
    (p >>= fun _ => (pure () : DeviceData Unit)).Meets (World.log _ _) ok es fun _ _ => True :=
  Prog.Meets.bind (R := fun _ _ => True) (h.mono fun r _ _ => by cases r <;> trivial)
    fun _ _ _ => trivial

/-! ## Runs with the answers of the tables -/

/-- A deployment in which everything but the tables answers what it should. -/
def DataStore.answer (s : DataStore) : (c : DataCall) → Except ServiceError (DataCall.Answer c)
  | .identity c => s.certs.answer c
  | .nonce c => s.nonces.answer c
  | .getMtlsEnforcementEnabled workspaceSlug => .ok (s.enforced workspaceSlug)
  | .findDeviceReportSecret workspaceSlug => .ok (s.secret workspaceSlug)
  | .newDate => .ok 0
  | .findDevicePushData workspaceSlug deviceId => .ok (s.pushData (workspaceSlug, deviceId))
  | .upsertDevicePushData .. => .ok ()
  | .serialIndex workspaceSlug serialNumber => .ok ((s.index workspaceSlug).lookup serialNumber)
  | .upsertInstalledAppsSlot .. => .ok ()
  | .deletePendingAppReports .. => .ok ()
  | .upsertPendingAppReport .. => .ok ()
  | .recordAuditEvent .. => .ok ()
  | .invalidateDevicesCache _ => .ok ()
  | .triggerEventDrivenReEvaluation .. => .ok ()

theorem data_may_answer (s : DataStore) (c : DataCall) : s.may c (s.answer c) := by
  cases c with
  | identity c => exact Mtls.may_answer s.certs c
  | nonce c => exact nonce_may_answer s.nonces c
  | getMtlsEnforcementEnabled workspaceSlug => rfl
  | findDeviceReportSecret workspaceSlug => rfl
  | findDevicePushData workspaceSlug deviceId => rfl
  | serialIndex workspaceSlug serialNumber => rfl
  | _ => trivial

/-- A deployment with a plain runtime. -/
def plainDeployment : Deployment where
  runtime :=
    { now := 0
      parseDate := fun _ => none
      parseNumber := fun _ => none
      printNumber := fun n => toString n.num
      toLowerCase := id
      inherited := fun _ => .undefined
      setMember := fun _ _ => .undefined }
  collation := ⟨fun a b => a ≤ b, fun a b => a ≤ b⟩
  mtlsInternalProxySecret := "proxy"

/-- Two workspaces' tables with nothing in them but a certificate of `SN1`: one
enforces mTLS, the other has the webhook secret `secret`. -/
def freshTables : DataStore where
  enforced workspaceSlug := workspaceSlug = "acme"
  secret workspaceSlug := if workspaceSlug = "global" then some "secret" else none
  certs := { Mtls.emptyTable with rows := [
    { id := "row 1", workspaceSlug := "acme", serialNumber := "SN1", serialHex := "01",
      certPem := "cert 1", notBefore := 0, notAfter := 1000, thumbprintHex := none }] }
  nonces := noNonces
  index _ := []
  pushData _ := none
  pendingApps _ := none
  installedApps _ := none
  audit := []

end AppliverySoar.DeviceData
