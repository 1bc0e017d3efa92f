import AppliverySoar.Async.Logic
import AppliverySoar.Compliance.Types
import AppliverySoar.Js.Value

/-!
# Play Integrity tokens and their nonces

`issueNonce` and `verifyAndDecodeToken` of playIntegrity.service.ts. Each query
is one call, and so are the two steps of the `jose` library: `compactDecrypt`
takes the token and the stored decryption key to the signed text, and
`compactVerify` the signed text and the verification key to the parsed payload;
both throw where a key does not decode. A moment is a number of milliseconds.

Left out: what an administrator does with the configuration, and log lines.
-/

namespace AppliverySoar.DeviceData

open Async Compliance Js

/-! ## Records -/

/-- What is read of a `PlayIntegrityConfig` row. -/
structure PlayIntegrityConfig where
  enabled : Bool
  cloudProjectNumber : String
  decryptionKey : String
  verificationKey : String
  deriving DecidableEq

/-- A `PlayIntegrityNonce` row. -/
structure PlayIntegrityNonce where
  id : String
  workspaceSlug : String
  serialNumber : String
  nonce : String
  issuedAt : ℕ
  consumedAt : Option ℕ := none
  deriving DecidableEq

structure IssuedNonce where
  nonce : String
  cloudProjectNumber : String
  deriving DecidableEq

structure PlayIntegrityDerivedAttributes where
  playIntegrityVerdict : String
  playIntegrityAppRecognized : Bool
  deriving DecidableEq

def NONCE_MAX_AGE_MS : ℕ := 10 * 60 * 1000

/-! ## The calls -/

/-- What the functions await or read. `randomNonce` is
`randomBytes(NONCE_BYTES).toString("base64url")`, `dateNow` is `Date.now()`. -/
inductive NonceCall
  | findConfig (workspaceSlug : String)
  | randomNonce
  | createNonce (workspaceSlug serialNumber nonce : String)
  | compactDecrypt (rawToken decryptionKey : String)
  | compactVerify (compactJws verificationKey : String)
  | findNonce (nonce : String)
  | dateNow
  | consumeNonce (id : String)
  deriving DecidableEq

/-- The answers: the id of the new row for `createNonce`. -/
@[reducible] def NonceCall.Answer : NonceCall → Type
  | .findConfig _ => Option PlayIntegrityConfig
  | .randomNonce => String
  | .createNonce .. => String
  | .compactDecrypt .. => String
  | .compactVerify .. => Value
  | .findNonce _ => Option PlayIntegrityNonce
  | .dateNow => ℕ
  | .consumeNonce _ => Unit

/-- The signature of the calls. -/
@[reducible] def nonceSig : Sig where
  Call := NonceCall
  Ret := NonceCall.Answer

/-- An `async` function of the module. -/
abbrev Nonces (α : Type) : Type := Prog nonceSig ServiceError α

/-- A call and its answer. -/
abbrev NonceEvent : Type := Event nonceSig ServiceError

/-- `await` of one of the calls. -/
def askNonce (c : NonceCall) : Nonces (NonceCall.Answer c) :=
  Prog.call (S := nonceSig) c

/-! ## Issuing -/

def issueNonce (workspaceSlug serialNumber : String) : Nonces IssuedNonce := do
  match ← askNonce (.findConfig workspaceSlug) with
  | none => notConfigured
  | some config =>
    if !config.enabled then notConfigured
    else
      let nonce ← askNonce .randomNonce
      let _ ← askNonce (.createNonce workspaceSlug serialNumber nonce)
      return ⟨nonce, config.cloudProjectNumber⟩
where
  notConfigured : Nonces IssuedNonce :=
    Prog.ret (.error (.http ⟨503, "Google Play Integrity API isn't configured for this workspace yet — ask your Applivery admin to set it up under Settings."⟩))

/-! ## What a payload says -/

/-- `v?.[key]`. -/
def property (v : Value) (key : String) : Value :=
  match v with
  | .obj fields => (fields.lookup key).getD .undefined
  | _ => .undefined

/-- `payload?.requestDetails?.nonce`, if it is a text and not empty. -/
def tokenNonce (payload : Value) : Option String :=
  match property (property payload "requestDetails") "nonce" with
  | .str nonce => if nonce = "" then none else some nonce
  | _ => none

def DEVICE_VERDICT_PRIORITY : List String :=
  ["MEETS_STRONG_INTEGRITY", "MEETS_DEVICE_INTEGRITY", "MEETS_BASIC_INTEGRITY",
    "MEETS_VIRTUAL_INTEGRITY"]

def bestDeviceVerdict (verdicts : Value) : String :=
  match verdicts with
  | .arr (v :: vs) =>
    (DEVICE_VERDICT_PRIORITY.find? fun candidate =>
      (v :: vs).any fun w => w.strictEq (.str candidate)).getD "UNKNOWN"
  | _ => "NONE"

/-- What a payload says of the device and of the app. -/
def derivedAttributes (payload : Value) : PlayIntegrityDerivedAttributes where
  playIntegrityVerdict :=
    bestDeviceVerdict (property (property payload "deviceIntegrity") "deviceRecognitionVerdict")
  playIntegrityAppRecognized :=
    (property (property payload "appIntegrity") "appRecognitionVerdict").strictEq
      (.str "PLAY_RECOGNIZED")

/-! ## Verifying -/

/-- The token decrypted, verified and parsed: the first `try` of
`verifyAndDecodeToken`. -/
def decodePayload (config : PlayIntegrityConfig) (rawToken : String) : Nonces Value := do
  let compactJws ← askNonce (.compactDecrypt rawToken config.decryptionKey)
  askNonce (.compactVerify compactJws config.verificationKey)

/-- `nonceOk`: `Date.now()` is read when nothing before it has failed. -/
def nonceOk (workspaceSlug serialNumber : String) (row : PlayIntegrityNonce) : Nonces Bool :=
  if row.workspaceSlug = workspaceSlug ∧ row.serialNumber = serialNumber ∧
      row.consumedAt = none then do
    let now ← askNonce .dateNow
    return now - row.issuedAt ≤ NONCE_MAX_AGE_MS
  else pure false

/-- The row is consumed whatever was found wrong with it. -/
def consumeIfFresh (row : PlayIntegrityNonce) : Nonces Unit :=
  if row.consumedAt = none then askNonce (.consumeNonce row.id) else pure ()

/-- What is done with a payload. -/
def redeemNonce (workspaceSlug serialNumber : String) (payload : Value) :
    Nonces (Option PlayIntegrityDerivedAttributes) :=
  match tokenNonce payload with
  | none => pure none
  | some nonce => do
    match ← askNonce (.findNonce nonce) with
    | none => return none
    | some row =>
      let ok ← nonceOk workspaceSlug serialNumber row
      consumeIfFresh row
      return if ok then some (derivedAttributes payload) else none

def verifyAndDecodeToken (workspaceSlug serialNumber rawToken : String) :
    Nonces (Option PlayIntegrityDerivedAttributes) := do
  match ← askNonce (.findConfig workspaceSlug) with
  | none => return none
  | some config =>
    if !config.enabled then return none
    else
      match ← (decodePayload config rawToken).attempt with
      | .error _ => return none
      | .ok payload => redeemNonce workspaceSlug serialNumber payload

end AppliverySoar.DeviceData
