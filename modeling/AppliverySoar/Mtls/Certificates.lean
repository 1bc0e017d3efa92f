import AppliverySoar.Async.Logic
import AppliverySoar.Compliance.Types

/-!
# Device certificates: registration, renewal, revocation, identity

What the agents and the administrators do with the table `DeviceCertificate`
(certificates.service.ts, deviceMtls.service.ts, mtlsIdentity.middleware.ts and
`signDeviceCsr` of mtlsPki.ts). Each query is one call, and so is what the
X.509 library does. A moment is a number of milliseconds.

Left out: the texts of audit events and log lines, the column `lastSeenAt`, and
what the list of certificates shows.
-/

namespace AppliverySoar.Mtls

open Async Workflows Compliance

/-! ## Records -/

/-- What `issueCertificateRecord` is given. -/
structure CertificateRecord where
  workspaceSlug : String
  serialNumber : String
  serialHex : String
  certPem : String
  notBefore : ℕ
  notAfter : ℕ
  deriving DecidableEq

/-- A `DeviceCertificate` row. -/
structure DeviceCertificate extends CertificateRecord where
  id : String
  thumbprintHex : Option String
  supersededAt : Option ℕ := none
  revokedAt : Option ℕ := none
  revokedReason : Option String := none
  deriving DecidableEq

/-- What `getCaForSigning` returns. -/
structure SigningCa where
  certPem : String
  privateKeyPem : String
  leafValidityDays : ℕ
  deriving DecidableEq

/-- The parameters of `signDeviceCsr`. -/
structure SignRequest where
  csrPem : String
  forcedCn : String
  caCertPem : String
  caPrivateKeyPem : String
  serialCounter : ℕ
  validityDays : ℕ
  deriving DecidableEq

structure SignedLeafCertificate where
  certPem : String
  serialHex : String
  notBefore : ℕ
  notAfter : ℕ
  deriving DecidableEq

structure IssuedCertificateResponse where
  certPem : String
  caCertPem : String
  notAfter : ℕ
  deriving DecidableEq

/-- `{ csrPem, serialNumber }`. -/
structure CsrPayload where
  csrPem : String
  serialNumber : String
  deriving DecidableEq

/-- The headers that `assertMtlsIdentity` reads. -/
structure IdentityHeaders where
  workspaceSlug : Option String
  proxySecret : Option String
  certVerified : Option String
  certCn : Option String
  deriving DecidableEq

/-! ## The calls -/

/-- What the functions await. `createLeaf` is `X509CertificateGenerator.create`
with the subject, the issuer's certificate and key, the serial and the
validity, and answers the PEM with the two moments; `touchLastSeen` is
the write that is never awaited. -/
inductive MtlsCall
  | getGlobalBootstrapToken (workspaceSlug : String)
  | getAutomationBearer (workspaceSlug : String)
  | getDevicesFull (bearer workspaceSlug : String)
  | findActiveCertificate (workspaceSlug serialNumber : String)
  | touchLastSeen (id : String)
  | getCaForSigning (workspaceSlug : String)
  | claimNextSerial (workspaceSlug : String)
  | parseCsr (csrPem : String)
  | verifyCsr (csrPem : String)
  | createLeaf (csrPem subject caCertPem caPrivateKeyPem serialHex : String) (validityDays : ℕ)
  | getCertificateThumbprintHex (certPem : String)
  | createCertificate (record : CertificateRecord) (thumbprintHex : Option String)
  | supersedeCertificates (workspaceSlug serialNumber : String)
  | findCertificate (id : String)
  | revokeCertificate (id reason : String)
  | purgeRevoked (workspaceSlug : String) (days : ℕ)
  | recordAuditEvent (workspaceSlug action targetId : String)
  deriving DecidableEq

/-- The answers: the serial numbers of the fleet for `getDevicesFull`, the id of
the new row for `createCertificate`, how many rows went for `purgeRevoked`. -/
@[reducible] def MtlsCall.Answer : MtlsCall → Type
  | .getGlobalBootstrapToken _ => Option String
  | .getAutomationBearer _ => Option String
  | .getDevicesFull .. => List String
  | .findActiveCertificate .. => Option String
  | .touchLastSeen _ => Unit
  | .getCaForSigning _ => Option SigningCa
  | .claimNextSerial _ => ℕ
  | .parseCsr _ => Unit
  | .verifyCsr _ => Bool
  | .createLeaf .. => String × ℕ × ℕ
  | .getCertificateThumbprintHex _ => Option String
  | .createCertificate .. => String
  | .supersedeCertificates .. => Unit
  | .findCertificate _ => Option DeviceCertificate
  | .revokeCertificate .. => Unit
  | .purgeRevoked .. => ℕ
  | .recordAuditEvent .. => Unit

/-- The signature of the calls. -/
@[reducible] def mtlsSig : Sig where
  Call := MtlsCall
  Ret := MtlsCall.Answer

/-- An `async` function of the module. -/
abbrev Mtls (α : Type) : Type := Prog mtlsSig ServiceError α

/-- A call and its answer. -/
abbrev MtlsEvent : Type := Event mtlsSig ServiceError

/-- `await` of one of the calls. -/
def ask (c : MtlsCall) : Mtls (MtlsCall.Answer c) :=
  Prog.call (S := mtlsSig) c

/-- `throw new HttpError(status, detail)`. -/
def fail {α : Type} (status : ℕ) (detail : String) : Mtls α :=
  Prog.ret (.error (.http ⟨status, detail⟩))

/-- `throw new Error(message)`. -/
def failPlain {α : Type} (message : String) : Mtls α :=
  Prog.ret (.error (.other message))

/-! ## The identity that the proxy forwards -/

def workspaceOf (slug : Option String) : String :=
  orElse slug "global"

/-- What `\s` and `trim` take for white space. -/
def isSpace (c : Char) : Bool :=
  [' ', '\t', '\n', '\x0b', '\x0c', '\r', '\u00a0', '\u1680', '\u2028', '\u2029', '\u202f', '\u205f',
    '\u3000', '\ufeff'].contains c || ('\u2000' ≤ c && c ≤ '\u200a')

/-- `s.trim()`. -/
def trim (s : List Char) : List Char :=
  ((s.dropWhile isSpace).reverse.dropWhile isSpace).reverse

/-- The group of `/\s*CN=([^,]+)/i` at the head of a text without commas. -/
def commonNameAt (segment : List Char) : Option (List Char) :=
  match segment.dropWhile isSpace with
  | c :: n :: '=' :: name =>
    if (c = 'C' ∨ c = 'c') ∧ (n = 'N' ∨ n = 'n') ∧ name ≠ [] then some name else none
  | _ => none

/-- `extractCommonName`: a match of `/(?:^|,)\s*CN=([^,]+)/i` begins at the start
or after a comma and ends before the next one. -/
def extractCommonName (headerValue : String) : String :=
  let chars := headerValue.toList
  String.ofList (trim (((chars.splitOn ',').findSome? commonNameAt).getD chars))

/-- `assertMtlsIdentity`: the common name that the caller has proved. -/
def assertMtlsIdentity (mtlsInternalProxySecret : String) (req : IdentityHeaders) : Mtls String :=
  let workspaceSlug := workspaceOf req.workspaceSlug
  if mtlsInternalProxySecret = "" then
    fail 503 "MTLS_INTERNAL_PROXY_SECRET is not configured for this deployment — mTLS enforcement is not active yet."
  else if truthy req.proxySecret ≠ some mtlsInternalProxySecret then
    fail 401 "Missing or invalid internal proxy secret."
  else
    match truthy req.certCn with
    | none => fail 401 "No verified client certificate identity was presented."
    | some rawCn =>
      if req.certVerified ≠ some "SUCCESS" then
        fail 401 "No verified client certificate identity was presented."
      else do
        let cn := extractCommonName rawCn
        match ← ask (.findActiveCertificate workspaceSlug cn) with
        | none =>
          fail 401 "The presented client certificate is not a currently active certificate for this workspace (it may be revoked, superseded, or expired)."
        | some id =>
          tryCatchThe ServiceError (ask (.touchLastSeen id)) fun _ => pure ()
          return cn

/-! ## Issuing -/

/-- The digits of a number in base 16. -/
def hexDigits (n : ℕ) : String :=
  String.ofList (Nat.toDigits 16 n)

def serialToHex (serial : ℕ) : String :=
  let hex := hexDigits serial
  if hex.length % 2 = 0 then hex else "0" ++ hex

def signDeviceCsr (p : SignRequest) : Mtls SignedLeafCertificate := do
  match ← (ask (.parseCsr p.csrPem)).attempt with
  | .error _ => failPlain "Could not parse the submitted CSR as a valid PKCS#10 PEM."
  | .ok () =>
    let csrSignatureValid ← ask (.verifyCsr p.csrPem)
    if !csrSignatureValid then
      failPlain "The submitted CSR's self-signature does not validate — refusing to sign."
    else
      let serialHex := serialToHex p.serialCounter
      let (certPem, notBefore, notAfter) ← ask
        (.createLeaf p.csrPem ("CN=" ++ p.forcedCn) p.caCertPem p.caPrivateKeyPem serialHex
          p.validityDays)
      return { certPem, serialHex, notBefore, notAfter }

def issueCertificateRecord (record : CertificateRecord) : Mtls Unit := do
  let thumbprintHex ← ask (.getCertificateThumbprintHex record.certPem)
  let _ ← ask (.createCertificate record thumbprintHex)
  pure ()

def issueLeaf (workspaceSlug serialNumber csrPem : String) : Mtls IssuedCertificateResponse := do
  match ← ask (.getCaForSigning workspaceSlug) with
  | none =>
    fail 503 ("No mTLS Certificate Authority is configured for workspace '" ++ workspaceSlug ++ "'. An admin must generate or upload one from Settings before devices can register.")
  | some ca =>
    let serialCounter ← ask (.claimNextSerial workspaceSlug)
    let leaf ← signDeviceCsr
      ⟨csrPem, serialNumber, ca.certPem, ca.privateKeyPem, serialCounter, ca.leafValidityDays⟩
    issueCertificateRecord
      ⟨workspaceSlug, serialNumber, leaf.serialHex, leaf.certPem, leaf.notBefore, leaf.notAfter⟩
    return ⟨leaf.certPem, ca.certPem, leaf.notAfter⟩

/-! ## Registration -/

def verifyGlobalBootstrapToken (workspaceSlug : String) (provided : Option String) :
    Mtls Unit := do
  match truthy (← ask (.getGlobalBootstrapToken workspaceSlug)) with
  | none =>
    fail 503 ("No global bootstrap token is configured for workspace '" ++ workspaceSlug ++ "'. Generate one from Settings > mTLS Agent Authentication before devices can register.")
  | some secret =>
    if truthy provided ≠ some secret then fail 401 "Invalid bootstrap token." else pure ()

def assertNotAlreadyActive (workspaceSlug serialNumber : String) : Mtls Unit := do
  match ← ask (.findActiveCertificate workspaceSlug serialNumber) with
  | some _ =>
    fail 409 ("Device '" ++ serialNumber ++ "' already has an active mTLS certificate — an admin must revoke it first before this device can re-register.")
  | none => pure ()

def assertKnownApplivertyDevice (workspaceSlug serialNumber : String) : Mtls Unit := do
  match truthy (← ask (.getAutomationBearer workspaceSlug)) with
  | none =>
    fail 503 "No Automation Credential configured for this workspace — device registration can't verify device identity against Applivery without one."
  | some bearer =>
    let serials ← ask (.getDevicesFull bearer workspaceSlug)
    if serials.contains serialNumber then pure ()
    else
      fail 403 ("Serial number '" ++ serialNumber ++ "' is not a currently-enrolled device in this workspace's Applivery fleet.")

def registerDevice (workspaceSlug : String) (params : CsrPayload)
    (bootstrapToken : Option String) : Mtls IssuedCertificateResponse := do
  verifyGlobalBootstrapToken workspaceSlug bootstrapToken
  assertNotAlreadyActive workspaceSlug params.serialNumber
  assertKnownApplivertyDevice workspaceSlug params.serialNumber
  let result ← issueLeaf workspaceSlug params.serialNumber params.csrPem
  ask (.recordAuditEvent workspaceSlug "mtls_device_registered" params.serialNumber)
  return result

/-! ## Renewal -/

def renewDevice (workspaceSlug : String) (params : CsrPayload) (verifiedSerialNumber : String) :
    Mtls IssuedCertificateResponse :=
  if params.serialNumber ≠ verifiedSerialNumber then
    fail 403 ("mTLS identity (" ++ verifiedSerialNumber ++ ") does not match the serialNumber in the renewal request (" ++ params.serialNumber ++ ").")
  else do
    ask (.supersedeCertificates workspaceSlug params.serialNumber)
    let result ← issueLeaf workspaceSlug params.serialNumber params.csrPem
    ask (.recordAuditEvent workspaceSlug "mtls_device_renewed" params.serialNumber)
    return result

/-- `POST /api/device-mtls/renew`. -/
def renewRoute (mtlsInternalProxySecret : String) (req : IdentityHeaders) (params : CsrPayload) :
    Mtls IssuedCertificateResponse := do
  let mtlsSerialNumber ← assertMtlsIdentity mtlsInternalProxySecret req
  renewDevice (workspaceOf req.workspaceSlug) params mtlsSerialNumber

/-! ## Revocation -/

def revokeCertificate (workspaceSlug id reason : String) : Mtls Unit := do
  match ← ask (.findCertificate id) with
  | none => fail 404 "Certificate not found."
  | some row =>
    if row.workspaceSlug ≠ workspaceSlug then fail 404 "Certificate not found."
    else if row.revokedAt.isSome then fail 400 "This certificate is already revoked."
    else
      ask (.revokeCertificate id reason)
      ask (.recordAuditEvent workspaceSlug "mtls_certificate_revoked" row.serialNumber)

/-- `purgeRevokedCertificates`, from line 351 on. -/
def purgeRevokedCertificates (workspaceSlug : String) (days : ℕ) : Mtls Unit := do
  let purged ← ask (.purgeRevoked workspaceSlug days)
  if purged > 0 then ask (.recordAuditEvent workspaceSlug "mtls_certificates_purged" "")
  else pure ()

example : extractCommonName "CN=DEVICE-1,O=Applivery SOAR" = "DEVICE-1" := by decide +kernel

example : extractCommonName "DEVICE-1" = "DEVICE-1" := by decide +kernel

end AppliverySoar.Mtls
