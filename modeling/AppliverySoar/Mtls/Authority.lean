import AppliverySoar.Async.Embed
import AppliverySoar.Async.Sequence
import AppliverySoar.Mtls.Certificates

/-!
# The certificate authority of a workspace

`generateCa`, `uploadCa` and `claimNextSerial` (ca.service.ts) with the two
functions of mtlsPki.ts that they use, beside `issueLeaf`. What the X.509
library reads off a certificate or a key is a parameter.

A workspace is seen as one sequence of operations, each run to its end or to the
call at which it throws. Between two of them certificates may be superseded,
revoked and purged, and the validity of new ones may be set. Beside the stored
row and the table, the state remembers which authority certificates have been
stored and what has been signed.
-/

namespace AppliverySoar.Mtls

open Async Compliance

/-! ## What certificates say -/

/-- What the library reads off a certificate: the names, the key that signed it
and its own serial number. -/
structure CertificateFacts where
  subject : String
  issuer : String
  signingKey : String
  serial : ℕ
  deriving DecidableEq

/-- The library's readings of a certificate and of a private key. -/
structure Pki where
  parse : String → CertificateFacts
  keyOf : String → String

/-- What tells the certificates of an authority apart. -/
structure Signed where
  issuer : String
  signingKey : String
  serial : ℕ
  deriving DecidableEq

/-- A stored authority certificate, as one of its issuer's certificates. -/
def Pki.own (pki : Pki) (certPem : String) : Signed :=
  ⟨(pki.parse certPem).issuer, (pki.parse certPem).signingKey, (pki.parse certPem).serial⟩

/-- The value of a hexadecimal digit. -/
def hexDigit (c : Char) : ℕ :=
  if c.isDigit then c.toNat - '0'.toNat else c.toNat - 'a'.toNat + 10

/-- The number that a text in base 16 stands for. -/
def hexValue (s : String) : ℕ :=
  s.toList.foldl (fun n c => 16 * n + hexDigit c) 0

/-- The certificate that `createLeaf` makes. -/
def Pki.leaf (pki : Pki) (caCertPem caPrivateKeyPem serialHex : String) : Signed :=
  ⟨(pki.parse caCertPem).subject, pki.keyOf caPrivateKeyPem, hexValue serialHex⟩

/-! ## Rows and calls -/

/-- A `CertificateAuthority` row. The private key is the decrypted text. -/
structure CertificateAuthority where
  certPem : String
  privateKeyPem : String
  source : String
  serialCounter : ℕ := 1
  leafValidityDays : ℕ := 90
  notBefore : ℕ
  notAfter : ℕ
  uploadedBy : Option String := none
  deriving DecidableEq

/-- What `new X509Certificate(certPem)` shows to `validateUploadedCaPair`. -/
structure ParsedCa where
  ca : Bool
  notBefore : ℕ
  notAfter : ℕ

/-- What the functions await. `createSelfSigned` is given the serial number, the
name and the key. -/
inductive CaCall
  | mtls (c : MtlsCall)
  | findCa
  | generateEcKeyPair
  | createSelfSigned (serialNumber name privateKeyPem : String)
  | parseCertificate (certPem : String)
  | importEcPrivateKey (privateKeyPem : String)
  | signChallenge (privateKeyPem : String)
  | verifyChallenge (certPem signature : String)
  | upsertCa (row : CertificateAuthority)
  | recordAuditEvent (action actor : String)

/-- The answers. -/
@[reducible] def CaCall.Answer : CaCall → Type
  | .mtls c => MtlsCall.Answer c
  | .findCa => Option CertificateAuthority
  | .generateEcKeyPair => String
  | .createSelfSigned .. => String × ℕ × ℕ
  | .parseCertificate _ => ParsedCa
  | .importEcPrivateKey _ => Unit
  | .signChallenge _ => String
  | .verifyChallenge .. => Bool
  | .upsertCa _ => Unit
  | .recordAuditEvent .. => Unit

/-- The signature of the calls. -/
@[reducible] def caSig : Sig where
  Call := CaCall
  Ret := CaCall.Answer

/-- An `async` function of the module. -/
abbrev Ca (α : Type) : Type := Prog caSig ServiceError α

/-- A call and its answer. -/
abbrev CaEvent : Type := Event caSig ServiceError

/-- `await` of one of the calls. -/
def askCa (c : CaCall) : Ca (CaCall.Answer c) :=
  Prog.call (S := caSig) c

/-- `throw new HttpError(status, detail)`. -/
def failCa {α : Type} (status : ℕ) (detail : String) : Ca α :=
  Prog.ret (.error (.http ⟨status, detail⟩))

/-- The calls of certificates.service.ts and deviceMtls.service.ts. -/
def mtlsCalls : SigHom mtlsSig caSig where
  call := .mtls
  answer _ a := a

/-! ## The functions -/

/-- `CaStatus`. -/
def getCaStatus : Ca (Option CertificateAuthority) :=
  askCa .findCa

def assertReplaceConfirmed (confirmReplace : Bool) : Ca Unit := do
  let existing ← askCa .findCa
  if existing.isSome && !confirmReplace then
    failCa 409 "A CA is already configured for this workspace. Replacing it invalidates every currently-issued device certificate's chain of trust — pass confirmReplace: true to proceed anyway."
  else pure ()

def generateCertificateAuthority (workspaceSlug : String) :
    Ca (String × String × ℕ × ℕ) := do
  let privateKeyPem ← askCa .generateEcKeyPair
  let cert ← askCa
    (.createSelfSigned "01" ("CN=Applivery SOAR CA (" ++ workspaceSlug ++ ")") privateKeyPem)
  return (cert.1, privateKeyPem, cert.2)

def generateCa (workspaceSlug actor : String) (confirmReplace : Bool) :
    Ca (Option CertificateAuthority) := do
  assertReplaceConfirmed confirmReplace
  let generated ← generateCertificateAuthority workspaceSlug
  askCa (.upsertCa
    { certPem := generated.1
      privateKeyPem := generated.2.1
      source := "generated"
      notBefore := generated.2.2.1
      notAfter := generated.2.2.2 })
  askCa (.recordAuditEvent "mtls_ca_generated" actor)
  getCaStatus

/-- `validateUploadedCaPair`: the validity, or the error. -/
def validateUploadedCaPair (certPem privateKeyPem : String) : Ca (Except String (ℕ × ℕ)) := do
  match ← (askCa (.parseCertificate certPem)).attempt with
  | .error _ => return .error "Could not parse the uploaded certificate as a valid X.509 PEM."
  | .ok cert =>
    if !cert.ca then
      return .error "The uploaded certificate does not have BasicConstraints CA=true — it can't be used to sign device certificates."
    else
      match ← (askCa (.importEcPrivateKey privateKeyPem)).attempt with
      | .error _ =>
        return .error "Could not parse the uploaded private key as a valid ECDSA PKCS#8 PEM."
      | .ok () =>
        match ← (askCa (.signChallenge privateKeyPem)).attempt with
        | .error _ =>
          return .error "The uploaded private key could not be used to sign (wrong algorithm or malformed key)."
        | .ok signature =>
          let isMatch ← askCa (.verifyChallenge certPem signature)
          if !isMatch then
            return .error "The uploaded certificate and private key do not match each other."
          else return .ok (cert.notBefore, cert.notAfter)

def uploadCa (actor certPem privateKeyPem : String) (confirmReplace : Bool) :
    Ca (Option CertificateAuthority) := do
  assertReplaceConfirmed confirmReplace
  match ← validateUploadedCaPair certPem privateKeyPem with
  | .error e => failCa 400 e
  | .ok validity =>
    askCa (.upsertCa
      { certPem := certPem
        privateKeyPem := privateKeyPem
        source := "uploaded"
        notBefore := validity.1
        notAfter := validity.2
        uploadedBy := some actor })
    askCa (.recordAuditEvent "mtls_ca_uploaded" actor)
    getCaStatus

/-! ## A workspace -/

/-- What is stored for the workspace, which authority certificates have been
stored so far, and what has been signed. -/
structure CaStore where
  ca : Option CertificateAuthority
  rows : List DeviceCertificate
  installed : List String
  signed : List Signed

/-- The certificate calls on the workspace. `claimNextSerial` is one
`UPDATE … RETURNING`; an insertion is refused where `(workspaceSlug,
serialHex)` is taken. -/
def leafWorld (pki : Pki) : World mtlsSig ServiceError CaStore where
  may s c r := match (⟨c, r⟩ : MtlsEvent) with
    | ⟨.getCaForSigning _, .ok found⟩ => found = s.ca.map fun row =>
      ⟨row.certPem, row.privateKeyPem, row.leafValidityDays⟩
    | ⟨.claimNextSerial _, .ok serial⟩ => ∃ row, s.ca = some row ∧ serial = row.serialCounter
    | ⟨.createCertificate record _, .ok id⟩ => ∀ row ∈ s.rows, row.id ≠ id ∧
      ¬(row.workspaceSlug = record.workspaceSlug ∧ row.serialHex = record.serialHex)
    | _ => True
  next s c r := match (⟨c, r⟩ : MtlsEvent) with
    | ⟨.claimNextSerial _, .ok _⟩ =>
      { s with ca := s.ca.map fun row => { row with serialCounter := row.serialCounter + 1 } }
    | ⟨.createLeaf _ _ caCertPem caPrivateKeyPem serialHex _, .ok _⟩ =>
      { s with signed := s.signed ++ [pki.leaf caCertPem caPrivateKeyPem serialHex] }
    | ⟨.createCertificate record thumbprintHex, .ok id⟩ =>
      { s with rows := s.rows ++ [{ record with id := id, thumbprintHex := thumbprintHex }] }
    | _ => s

/-- All calls on the workspace. A self-signed certificate says what it was made
with. -/
def caWorld (pki : Pki) : World caSig ServiceError CaStore where
  may s c r := match (⟨c, r⟩ : CaEvent) with
    | ⟨.mtls c, r⟩ => (leafWorld pki).may s c r
    | ⟨.findCa, .ok found⟩ => found = s.ca
    | ⟨.createSelfSigned serialNumber name privateKeyPem, .ok cert⟩ =>
      pki.parse cert.1 = ⟨name, name, pki.keyOf privateKeyPem, hexValue serialNumber⟩
    | _ => True
  next s c r := match (⟨c, r⟩ : CaEvent) with
    | ⟨.mtls c, r⟩ => (leafWorld pki).next s c r
    | ⟨.upsertCa row, .ok _⟩ =>
      { s with
        ca := some row
        installed := s.installed ++ [row.certPem] }
    | _ => s

/-- An operation. -/
inductive CaTask
  | generate (actor : String) (confirmReplace : Bool)
  | upload (actor certPem privateKeyPem : String) (confirmReplace : Bool)
  | issue (serialNumber csrPem : String)
  deriving DecidableEq

/-- What an operation of the workspace runs. -/
def CaTask.body (workspaceSlug : String) : CaTask → Ca Unit
  | .generate actor confirmReplace => do
    let _ ← generateCa workspaceSlug actor confirmReplace
  | .upload actor certPem privateKeyPem confirmReplace => do
    let _ ← uploadCa actor certPem privateKeyPem confirmReplace
  | .issue serialNumber csrPem => do
    let _ ← (issueLeaf workspaceSlug serialNumber csrPem).embed mtlsCalls

/-- What happens to a workspace besides: certificates are superseded, revoked
and purged, and `setLeafValidityDays`. -/
structure CaStore.Aside (s s' : CaStore) : Prop where
  rows : ∀ row' ∈ s'.rows, ∃ row ∈ s.rows, row.toCertificateRecord = row'.toCertificateRecord
  ca : ∃ days, s'.ca = s.ca.map fun row => { row with leafValidityDays := days }
  installed : s'.installed = s.installed
  signed : s'.signed = s.signed

/-- A workspace without an authority. -/
def CaStore.empty : CaStore :=
  ⟨none, [], [], []⟩

/-- An operation that has been run. -/
abbrev CaTurn : Type := Turn caSig ServiceError CaStore CaTask

/-- A sequence of operations on a workspace that starts without an authority. -/
def CaSequence (pki : Pki) (workspaceSlug : String) : List CaTurn → CaStore → Prop :=
  Sequence (caWorld pki) (CaTask.body workspaceSlug) CaStore.Aside CaStore.empty

end AppliverySoar.Mtls
