import AppliverySoar.Mtls.Authority

/-!
# Serial numbers

The counter of an authority starts at 1, and storing an authority, generated or
uploaded, new or the same again, sets it back to 1. The certificates that were
issued before stay in the table. A generated authority carries the serial number
1 itself.

Results:
* `hexValue_serialToHex`: `serialToHex` is free of collisions.
* `serials_unique`: where an authority is stored only while no certificate has
  been issued, and the counter is never the own serial number of an authority
  certificate when a certificate is issued, no serial is used twice.
-/

namespace AppliverySoar.Mtls

open Async Prog Compliance List

/-! ## Numbers in base 16 -/

theorem hexDigit_digitChar {d : ℕ} (h : d < 16) : hexDigit (Nat.digitChar d) = d := by
  revert d
  decide

theorem foldl_toDigits (n : ℕ) :
    (Nat.toDigits 16 n).foldl (fun m c => 16 * m + hexDigit c) 0 = n := by
  induction n using Nat.strongRecOn with
  | ind n ih =>
    by_cases hn : n < 16
    · rw [Nat.toDigits_of_lt_base hn]
      simp [hexDigit_digitChar hn]
    · rw [Nat.toDigits_of_base_le (by decide) (by omega), foldl_append,
        ih (n / 16) (by omega)]
      simp only [foldl_cons, foldl_nil]
      rw [hexDigit_digitChar (Nat.mod_lt n (by decide))]
      omega

/-- A text that `serialToHex` prints stands for the number it was printed
from. -/
theorem hexValue_serialToHex (n : ℕ) : hexValue (serialToHex n) = n := by
  have hdigits : (hexDigits n).toList = Nat.toDigits 16 n := String.toList_ofList
  unfold serialToHex hexValue
  dsimp only
  split_ifs
  · rw [hdigits]
    exact foldl_toDigits n
  · rw [String.toList_append, hdigits, foldl_append]
    exact foldl_toDigits n

theorem serialToHex_inj {m n : ℕ} (h : serialToHex m = serialToHex n) : m = n := by
  rw [← hexValue_serialToHex m, h, hexValue_serialToHex]

/-! ## Unique serials -/

/-- What an event has to find: an allocated serial is that of no certificate
issued so far; a certificate that is signed differs from all that its key and
issuer have signed; the serial of an inserted row is free. -/
def SerialFree (pki : Pki) (s : CaStore) (e : CaEvent) : Prop :=
  match e with
  | ⟨.mtls (.claimNextSerial _), .ok serial⟩ =>
    (∀ leaf ∈ s.signed, leaf.serial ≠ serial) ∧
      ∀ row ∈ s.rows, row.serialHex ≠ serialToHex serial
  | ⟨.mtls (.createLeaf _ _ caCertPem caPrivateKeyPem serialHex _), .ok _⟩ =>
    pki.leaf caCertPem caPrivateKeyPem serialHex ∉ s.signed ++ s.installed.map pki.own
  | ⟨.mtls (.createCertificate record _), _⟩ =>
    ∀ row ∈ s.rows, ¬(row.workspaceSlug = record.workspaceSlug ∧ row.serialHex = record.serialHex)
  | _ => True

/-- In every operation of the sequence every event finds its serial free. -/
def SerialsUnique (pki : Pki) (ts : List CaTurn) : Prop :=
  ∀ t ∈ ts, ∀ pre e rest, t.events = pre ++ e :: rest →
    SerialFree pki ((caWorld pki).after t.before pre) e

/-- The operation stores an authority only where nothing has been issued, and
issues a certificate only where the counter is not the own serial number of
an authority certificate that the same key and issuer have signed. -/
structure KeepsSerials (pki : Pki) (t : CaTurn) : Prop where
  stores : ∀ row, (⟨.upsertCa row, .ok ()⟩ : CaEvent) ∈ t.events → t.before.signed = []
  issues : ∀ serialNumber csrPem row, t.task = .issue serialNumber csrPem →
    t.before.ca = some row →
    ⟨(pki.parse row.certPem).subject, pki.keyOf row.privateKeyPem, row.serialCounter⟩ ∉
      t.before.installed.map pki.own

/-! ## The invariant -/

/-- What has been signed has a serial below the counter, and every row has the
serial of something that has been signed. -/
structure CaStore.Counted (s : CaStore) : Prop where
  signed : ∀ leaf ∈ s.signed, ∃ row, s.ca = some row ∧ leaf.serial < row.serialCounter
  rows : ∀ row ∈ s.rows, ∃ leaf ∈ s.signed, row.serialHex = serialToHex leaf.serial

/-- `SerialFree` as a condition on the call: what `claimNextSerial` answers is
the counter. -/
def CallFree (pki : Pki) (s : CaStore) : CaCall → Prop
  | .mtls (.claimNextSerial _) => ∀ ca, s.ca = some ca →
    (∀ leaf ∈ s.signed, leaf.serial ≠ ca.serialCounter) ∧
      ∀ row ∈ s.rows, row.serialHex ≠ serialToHex ca.serialCounter
  | .mtls (.createLeaf _ _ caCertPem caPrivateKeyPem serialHex _) =>
    pki.leaf caCertPem caPrivateKeyPem serialHex ∉ s.signed ++ s.installed.map pki.own
  | .mtls (.createCertificate record _) =>
    ∀ row ∈ s.rows, ¬(row.workspaceSlug = record.workspaceSlug ∧ row.serialHex = record.serialHex)
  | _ => True

variable {pki : Pki} {s : CaStore} {e : CaEvent}

theorem serialFree_of_call (h : CallFree pki s e.call)
    (hmay : (caWorld pki).may s e.call e.answer) : SerialFree pki s e := by
  obtain ⟨c, r⟩ := e
  unfold SerialFree
  split
  · next heq =>
    cases heq
    obtain ⟨row, hrow, rfl⟩ := hmay
    exact h row hrow
  · next heq =>
    cases heq
    exact h
  · next heq =>
    cases heq
    exact h
  · trivial

section Issue

variable {pki : Pki} {s : CaStore} {workspaceSlug : String}

theorem counted_aside {s' : CaStore} (h : s.Counted) (haside : s.Aside s') : s'.Counted where
  signed leaf hleaf := by
    obtain ⟨days, hca⟩ := haside.ca
    obtain ⟨row, hrow, hlt⟩ := h.signed leaf (haside.signed ▸ hleaf)
    exact ⟨{ row with leafValidityDays := days }, by rw [hca, hrow]; rfl, hlt⟩
  rows row' hrow' := by
    obtain ⟨row, hrow, heq⟩ := haside.rows row' hrow'
    obtain ⟨leaf, hleaf, hserial⟩ := h.rows row hrow
    have hhex : row'.serialHex = row.serialHex := by
      rw [show row'.serialHex = row'.toCertificateRecord.serialHex from rfl, ← heq]
    exact ⟨leaf, haside.signed.symm ▸ hleaf, hhex.trans hserial⟩

/-- What has been claimed and not been used yet. -/
structure CaStore.Claimed (s : CaStore) (pki : Pki) (row : CertificateAuthority) (serial : ℕ) :
    Prop where
  ca : s.ca = some { row with serialCounter := serial + 1 }
  signed : ∀ leaf ∈ s.signed, leaf.serial < serial
  rows : ∀ row' ∈ s.rows, ∃ leaf ∈ s.signed, row'.serialHex = serialToHex leaf.serial
  own : ⟨(pki.parse row.certPem).subject, pki.keyOf row.privateKeyPem, serial⟩ ∉
    s.installed.map pki.own

variable {row : CertificateAuthority} {serial : ℕ}

theorem CaStore.Claimed.counted (h : s.Claimed pki row serial) : s.Counted where
  signed leaf hleaf := ⟨_, h.ca, (h.signed leaf hleaf).trans (Nat.lt_succ_self serial)⟩
  rows := h.rows

/-- A certificate with the claimed serial has been signed. -/
structure CaStore.Minted (s : CaStore) (serial : ℕ) : Prop extends s.Counted where
  minted : ∃ leaf ∈ s.signed, leaf.serial = serial
  free : ∀ row ∈ s.rows, row.serialHex ≠ serialToHex serial

theorem CaStore.Claimed.minted
    (h : s.Claimed pki row serial) {leaf : Signed} (hleaf : leaf.serial = serial) :
    ({ s with signed := s.signed ++ [leaf] } : CaStore).Minted serial where
  signed leaf' hleaf' := by
    refine ⟨_, h.ca, ?_⟩
    rcases mem_append.mp hleaf' with hold | hnew
    · exact (h.signed leaf' hold).trans (Nat.lt_succ_self serial)
    · rw [mem_singleton.mp hnew, hleaf]
      exact Nat.lt_succ_self serial
  rows row' hrow' := by
    obtain ⟨leaf', hleaf', hserial⟩ := h.rows row' hrow'
    exact ⟨leaf', mem_append_left _ hleaf', hserial⟩
  minted := ⟨leaf, by simp, hleaf⟩
  free row' hrow' hserial := by
    obtain ⟨leaf', hleaf', hserial'⟩ := h.rows row' hrow'
    exact absurd (serialToHex_inj (hserial'.symm.trans hserial)) (h.signed leaf' hleaf').ne

theorem meets_signDeviceCsr
    (h : s.Claimed pki row serial) (csrPem forcedCn : String) (validityDays : ℕ) :
    (signDeviceCsr ⟨csrPem, forcedCn, row.certPem, row.privateKeyPem, serial,
      validityDays⟩).Meets (leafWorld pki) (fun s c => CallFree pki s (.mtls c)) s
      (post (fun leaf s' => s'.Minted serial ∧ leaf.serialHex = serialToHex serial)
        fun _ s' => s'.Counted) := by
  unfold signDeviceCsr
  refine ⟨trivial, fun parsed _ => ?_⟩
  rcases parsed with e | u
  · exact h.counted
  refine ⟨trivial, fun verified _ => ?_⟩
  rcases verified with e | valid
  · exact h.counted
  cases valid with
  | false => exact h.counted
  | true =>
    refine ⟨?_, fun made _ => ?_⟩
    · -- the serial is above all that has been signed, and not an authority's own
      show pki.leaf row.certPem row.privateKeyPem (serialToHex serial) ∉ _
      rw [Pki.leaf, hexValue_serialToHex, mem_append, not_or]
      exact ⟨fun hmem => absurd (h.signed _ hmem) (Nat.lt_irrefl serial), h.own⟩
    · rcases made with e | cert
      · exact h.counted
      · have hleaf : (pki.leaf row.certPem row.privateKeyPem (serialToHex serial)).serial =
            serial := by
          rw [Pki.leaf, hexValue_serialToHex]
        exact ⟨h.minted hleaf, rfl⟩

theorem meets_issueCertificateRecord {record : CertificateRecord}
    (h : s.Minted serial) (hrecord : record.serialHex = serialToHex serial) :
    (issueCertificateRecord record).Meets (leafWorld pki)
      (fun s c => CallFree pki s (.mtls c)) s fun _ s' => s'.Counted := by
  unfold issueCertificateRecord
  refine ⟨trivial, fun thumbprint _ => ?_⟩
  rcases thumbprint with e | thumbprintHex
  · exact h.toCounted
  refine ⟨fun row hrow htaken => h.free row hrow (htaken.2.trans hrecord), fun created _ => ?_⟩
  rcases created with e | id
  · exact h.toCounted
  refine ⟨h.signed, fun row hrow => ?_⟩
  rcases mem_append.mp hrow with hold | hnew
  · exact h.rows row hold
  · obtain ⟨leaf, hleaf, hserial⟩ := h.minted
    obtain rfl := mem_singleton.mp hnew
    exact ⟨leaf, hleaf, by rw [hserial]; exact hrecord⟩

/-- An issuance from a state in which the counter is not an authority's own
serial number. -/
theorem meets_issueLeaf_serial (h : s.Counted)
    (hown : ∀ row, s.ca = some row →
      ⟨(pki.parse row.certPem).subject, pki.keyOf row.privateKeyPem, row.serialCounter⟩ ∉
        s.installed.map pki.own) (serialNumber csrPem : String) :
    (issueLeaf workspaceSlug serialNumber csrPem).Meets (leafWorld pki)
      (fun s c => CallFree pki s (.mtls c)) s fun _ s' => s'.Counted := by
  unfold issueLeaf
  refine ⟨trivial, fun found hfound => ?_⟩
  rcases found with e | found
  · exact h
  have hca : found = s.ca.map fun row =>
      (⟨row.certPem, row.privateKeyPem, row.leafValidityDays⟩ : SigningCa) := hfound
  subst hca
  cases hrow : s.ca with
  | none => exact h
  | some row =>
    have hlower : ∀ leaf ∈ s.signed, leaf.serial < row.serialCounter := by
      intro leaf hleaf
      obtain ⟨row', hrow', hlt⟩ := h.signed leaf hleaf
      rw [hrow] at hrow'
      exact Option.some.inj hrow' ▸ hlt
    refine ⟨fun ca hca => ?_, fun claimed hclaimed => ?_⟩
    · obtain rfl := Option.some.inj (hrow.symm.trans hca)
      refine ⟨fun leaf hleaf => (hlower leaf hleaf).ne, fun row' hrow' heq => ?_⟩
      obtain ⟨leaf, hleaf, hserial⟩ := h.rows row' hrow'
      exact absurd (serialToHex_inj (hserial.symm.trans heq)) (hlower leaf hleaf).ne
    · rcases claimed with e | serial
      · exact h
      obtain ⟨row', hrow', rfl⟩ := hclaimed
      obtain rfl := Option.some.inj (hrow.symm.trans hrow')
      have hnext : ((leafWorld pki).next s (.claimNextSerial workspaceSlug)
          (.ok row.serialCounter)).Claimed pki row row.serialCounter := by
        refine ⟨?_, hlower, h.rows, hown row hrow⟩
        show s.ca.map _ = _
        rw [hrow]
        rfl
      have hsign := meets_signDeviceCsr hnext csrPem serialNumber row.leafValidityDays
      refine Meets.bind (p := signDeviceCsr _) hsign fun leaf s' hleaf => ?_
      refine Meets.bind (R := fun _ s'' => s''.Counted)
        ((meets_issueCertificateRecord hleaf.1 hleaf.2).mono fun r _ hr => by cases r <;> exact hr)
        fun _ _ hcounted => hcounted

end Issue

/-! ## Storing an authority -/

section Install

variable {pki : Pki} {s : CaStore} {workspaceSlug : String}

/-- A call that is not one of the certificate functions. -/
def CaCall.setup : CaCall → Bool
  | .mtls _ => false
  | _ => true

theorem setup_ask {c : CaCall} (h : c.setup = true) :
    (askCa c : Ca _).Calls fun c => CaCall.setup c = true :=
  calls_call h

theorem setup_assertReplaceConfirmed (confirmReplace : Bool) :
    (assertReplaceConfirmed confirmReplace).Calls fun c => CaCall.setup c = true := by
  unfold assertReplaceConfirmed
  refine Calls.bind (setup_ask rfl) fun _ => ?_
  exact Calls.guard fun _ => calls_ret _

theorem setup_generateCa (slug actor : String) (confirmReplace : Bool) :
    (generateCa slug actor confirmReplace).Calls fun c => CaCall.setup c = true := by
  unfold generateCa generateCertificateAuthority
  refine Calls.bind (setup_assertReplaceConfirmed _) fun _ => ?_
  refine Calls.bind ?_ fun _ => Calls.bind (setup_ask rfl) fun _ =>
    Calls.bind (setup_ask rfl) fun _ => setup_ask rfl
  exact Calls.bind (setup_ask rfl) fun _ => Calls.bind (setup_ask rfl) fun _ =>
    calls_ret _

theorem setup_validateUploadedCaPair (certPem privateKeyPem : String) :
    (validateUploadedCaPair certPem privateKeyPem).Calls fun c => CaCall.setup c = true := by
  unfold validateUploadedCaPair
  refine Calls.bind (Calls.attempt (setup_ask rfl)) fun cert => ?_
  rcases cert with e | cert
  · exact calls_ret _
  refine Calls.guard fun _ => ?_
  refine Calls.bind (Calls.attempt (setup_ask rfl)) fun key => ?_
  rcases key with e | key
  · exact calls_ret _
  refine Calls.bind (Calls.attempt (setup_ask rfl)) fun signature => ?_
  rcases signature with e | signature
  · exact calls_ret _
  refine Calls.bind (setup_ask rfl) fun isMatch => ?_
  exact Calls.guard fun _ => calls_ret _

theorem setup_uploadCa (actor certPem privateKeyPem : String) (confirmReplace : Bool) :
    (uploadCa actor certPem privateKeyPem confirmReplace).Calls fun c => CaCall.setup c = true := by
  unfold uploadCa
  refine Calls.bind (setup_assertReplaceConfirmed _) fun _ => ?_
  refine Calls.bind (setup_validateUploadedCaPair _ _) fun validity => ?_
  rcases validity with e | validity
  · exact calls_ret _
  · exact Calls.bind (setup_ask rfl) fun _ => Calls.bind (setup_ask rfl) fun _ =>
      setup_ask rfl

theorem setup_body {task : CaTask} (h : ∀ serialNumber csrPem, task ≠ .issue serialNumber csrPem) :
    (task.body workspaceSlug).Calls fun c => CaCall.setup c = true := by
  cases task with
  | generate actor confirmReplace =>
    exact Calls.bind (setup_generateCa _ _ _) fun _ => calls_ret _
  | upload actor certPem privateKeyPem confirmReplace =>
    exact Calls.bind (setup_uploadCa _ _ _ _) fun _ => calls_ret _
  | issue serialNumber csrPem => exact absurd rfl (h serialNumber csrPem)

/-- Such a call signs nothing, and it changes the workspace only by storing an
authority. -/
theorem setup_next (pki : Pki) (s : CaStore) {e : CaEvent} (h : e.call.setup = true) :
    ((caWorld pki).next s e.call e.answer).signed = s.signed ∧
      ((∀ row, e ≠ ⟨.upsertCa row, .ok ()⟩) → (caWorld pki).next s e.call e.answer = s) ∧
      (s.signed = [] → s.Counted → ((caWorld pki).next s e.call e.answer).Counted) := by
  obtain ⟨c, r⟩ := e
  cases c with
  | mtls c => cases h
  | upsertCa row =>
    cases r with
    | error e => exact ⟨rfl, fun _ => rfl, fun _ h => h⟩
    | ok u =>
      refine ⟨rfl, fun hne => absurd rfl (hne row), fun hnone hcounted => ⟨?_, hcounted.rows⟩⟩
      intro leaf hleaf
      rw [show ((caWorld pki).next s (.upsertCa row) (.ok u)).signed = s.signed from rfl,
        hnone] at hleaf
      cases hleaf
  | _ => cases r <;> exact ⟨rfl, fun _ => rfl, fun _ h => h⟩

theorem setup_after {es : List CaEvent} (h : ∀ e ∈ es, e.call.setup = true)
    (hstores : ∀ row, (⟨.upsertCa row, .ok ()⟩ : CaEvent) ∈ es → s.signed = [])
    (hcounted : s.Counted) : ((caWorld pki).after s es).Counted := by
  induction es generalizing s with
  | nil => exact hcounted
  | cons e es ih =>
    obtain ⟨hsigned, hsame, hkeep⟩ := setup_next pki s (h e mem_cons_self)
    rw [World.after_cons]
    refine ih (fun e' he' => h e' (mem_cons_of_mem _ he'))
      (fun row hrow => hsigned.trans (hstores row (mem_cons_of_mem _ hrow))) ?_
    by_cases hstore : ∃ row, e = ⟨.upsertCa row, .ok ()⟩
    · obtain ⟨row, rfl⟩ := hstore
      exact hkeep (hstores row mem_cons_self) hcounted
    · rw [hsame fun row hrow => hstore ⟨row, hrow⟩]
      exact hcounted

end Install

/-! ## Sequences -/

section Sequences

variable {pki : Pki} {workspaceSlug : String} {t : CaTurn}

/-- **Step lemma**: an operation that keeps to the rule finds every serial free
and keeps the invariant. -/
theorem counted_turn (hlegal : t.Legal (caWorld pki) (CaTask.body workspaceSlug))
    (hkeeps : KeepsSerials pki t) (hcounted : t.before.Counted) :
    (t.after (caWorld pki)).Counted ∧ ∀ pre e rest, t.events = pre ++ e :: rest →
      SerialFree pki ((caWorld pki).after t.before pre) e := by
  have hmay : ∀ pre e rest, t.events = pre ++ e :: rest →
      (caWorld pki).may ((caWorld pki).after t.before pre) e.call e.answer := by
    intro pre e rest hes
    have haccepts := hlegal.accepted
    rw [hes, World.accepts_append] at haccepts
    exact haccepts.2.1
  by_cases htask : ∃ serialNumber csrPem, t.task = .issue serialNumber csrPem
  · obtain ⟨serialNumber, csrPem, htask⟩ := htask
    have hown := fun row => hkeeps.issues serialNumber csrPem row htask
    have hleaf : ((issueLeaf workspaceSlug serialNumber csrPem).embed mtlsCalls).Meets
        (caWorld pki) (CallFree pki) t.before fun _ s' => s'.Counted :=
      Meets.embed (fun _ _ h => h) (fun s c r h => by cases r <;> exact h)
        (fun s c r => by cases r <;> rfl)
        (meets_issueLeaf_serial hcounted hown serialNumber csrPem)
    have hmeets : (t.task.body workspaceSlug).Meets (caWorld pki) (CallFree pki) t.before
        fun _ s' => s'.Counted := by
      rw [htask]
      exact Meets.bind (hleaf.mono fun r _ hr => by cases r <;> exact hr)
        fun _ _ hr => hr
    refine ⟨hmeets.post_of_steps hlegal.steps hlegal.accepted, fun pre e rest hes => ?_⟩
    refine serialFree_of_call ?_ (hmay pre e rest hes)
    exact hmeets.ok_of_append (hes ▸ hlegal.steps) (hes ▸ hlegal.accepted)
  · have hsetup : ∀ e ∈ t.events, e.call.setup = true :=
      (setup_body fun n csr h => htask ⟨n, csr, h⟩).of_steps hlegal.steps
    refine ⟨setup_after hsetup hkeeps.stores hcounted, fun pre e rest hes => ?_⟩
    refine serialFree_of_call ?_ (hmay pre e rest hes)
    have he := hsetup e (by rw [hes]; simp)
    revert he
    cases e.call <;> simp [CaCall.setup, CallFree]

/-- **Main theorem**: in a sequence in which an authority is stored only while
nothing has been issued, and a certificate is issued only while the counter
is not an authority's own serial number, every serial is used once. -/
theorem serials_unique {ts : List CaTurn} {s : CaStore} (h : CaSequence pki workspaceSlug ts s)
    (hkeeps : ∀ t ∈ ts, KeepsSerials pki t) : SerialsUnique pki ts := by
  have hempty : CaStore.empty.Counted :=
    ⟨fun _ hleaf => absurd hleaf not_mem_nil, fun _ hrow => absurd hrow not_mem_nil⟩
  have hall := h.invariant hempty
    (fun t ht hlegal hcounted => (counted_turn hlegal (hkeeps t ht) hcounted).1)
    (fun s s' haside hcounted => counted_aside hcounted haside)
  intro t ht
  exact (counted_turn (h.legal ht) (hkeeps t ht) (hall.2 t ht)).2

end Sequences

/-! ## Two sequences -/

/-- A deployment in which everything but the store answers what it should, where
it can. -/
def CaStore.answer (pki : Pki) (s : CaStore) :
    (c : CaCall) → Except ServiceError (CaCall.Answer c)
  | .mtls (.getCaForSigning _) => .ok (s.ca.map fun row =>
    ⟨row.certPem, row.privateKeyPem, row.leafValidityDays⟩)
  | .mtls (.claimNextSerial _) =>
    match s.ca with
    | none => .error (.other "Record to update not found.")
    | some row => .ok row.serialCounter
  | .mtls (.parseCsr _) => .ok ()
  | .mtls (.verifyCsr _) => .ok true
  | .mtls (.createLeaf _ _ _ _ serialHex _) => .ok ("cert " ++ serialHex, 0, 90)
  | .mtls (.getCertificateThumbprintHex _) => .ok none
  | .mtls (.createCertificate record _) =>
    let id := "row " ++ record.serialHex
    if ∀ row ∈ s.rows, row.id ≠ id ∧
        ¬(row.workspaceSlug = record.workspaceSlug ∧ row.serialHex = record.serialHex) then
      .ok id
    else .error (.other "Unique constraint failed")
  | .mtls _ => .error (.other "not called")
  | .findCa => .ok s.ca
  | .generateEcKeyPair => .ok (if s.installed.isEmpty then "key 1" else "key 2")
  | .createSelfSigned serialNumber name privateKeyPem =>
    let certPem := "ca " ++ privateKeyPem
    if pki.parse certPem = ⟨name, name, pki.keyOf privateKeyPem, hexValue serialNumber⟩ then
      .ok (certPem, 0, 3650)
    else .error (.other "asn1")
  | .parseCertificate _ => .ok ⟨true, 0, 3650⟩
  | .importEcPrivateKey _ => .ok ()
  | .signChallenge _ => .ok "signature"
  | .verifyChallenge .. => .ok true
  | .upsertCa _ => .ok ()
  | .recordAuditEvent .. => .ok ()

theorem may_caAnswer (pki : Pki) (s : CaStore) (c : CaCall) :
    (caWorld pki).may s c (s.answer pki c) := by
  cases c with
  | mtls c =>
    cases c with
    | getCaForSigning _ => exact rfl
    | claimNextSerial slug =>
      cases hca : s.ca with
      | none =>
        rw [show s.answer pki (.mtls (.claimNextSerial slug)) =
          .error (.other "Record to update not found.") by simp only [CaStore.answer, hca]]
        trivial
      | some row =>
        rw [show s.answer pki (.mtls (.claimNextSerial slug)) = .ok row.serialCounter by
          simp only [CaStore.answer, hca]]
        exact ⟨row, hca, rfl⟩
    | createCertificate record thumbprintHex =>
      by_cases hfree : ∀ row ∈ s.rows, row.id ≠ "row " ++ record.serialHex ∧
          ¬(row.workspaceSlug = record.workspaceSlug ∧ row.serialHex = record.serialHex)
      · rw [show s.answer pki (.mtls (.createCertificate record thumbprintHex)) =
          .ok ("row " ++ record.serialHex) from if_pos hfree]
        exact hfree
      · rw [show s.answer pki (.mtls (.createCertificate record thumbprintHex)) =
          .error (.other "Unique constraint failed") from if_neg hfree]
        trivial
    | _ => trivial
  | findCa => exact rfl
  | createSelfSigned serialNumber name privateKeyPem =>
    by_cases hparse : pki.parse ("ca " ++ privateKeyPem) =
        ⟨name, name, pki.keyOf privateKeyPem, hexValue serialNumber⟩
    · rw [show s.answer pki (.createSelfSigned serialNumber name privateKeyPem) =
        .ok ("ca " ++ privateKeyPem, 0, 3650) from if_pos hparse]
      exact hparse
    · rw [show s.answer pki (.createSelfSigned serialNumber name privateKeyPem) =
        .error (.other "asn1") from if_neg hparse]
      trivial
  | _ => trivial

/-- The operation, run on a store with these answers. -/
def turnAt (pki : Pki) (s : CaStore) (task : CaTask) : CaTurn :=
  let run := (task.body "acme").execute (caWorld pki) (CaStore.answer pki) s
  ⟨task, s, run.1, run.2⟩

/-- The operations one after the other. -/
def turnsFrom (pki : Pki) : CaStore → List CaTask → List CaTurn
  | _, [] => []
  | s, task :: tasks =>
    let t := turnAt pki s task
    t :: turnsFrom pki (t.after (caWorld pki)) tasks

variable {ts : List CaTurn}

theorem sequence_turnsFrom
    (h : CaSequence pki "acme" ts s) (tasks : List CaTask) :
    ∃ s', CaSequence pki "acme" (ts ++ turnsFrom pki s tasks) s' := by
  induction tasks generalizing ts s with
  | nil => exact ⟨s, (append_nil ts).symm ▸ h⟩
  | cons task tasks ih =>
    have hlegal : (turnAt pki s task).Legal (caWorld pki) (CaTask.body "acme") :=
      ⟨steps_execute _ s, accepts_execute (may_caAnswer pki) _ s⟩
    obtain ⟨s', hs'⟩ := ih (Sequence.turn (t := turnAt pki s task) h hlegal)
    exact ⟨s', by rwa [append_assoc] at hs'⟩

/-- `KeepsSerials`, as a check. -/
def keepsSerials (pki : Pki) (t : CaTurn) : Bool :=
  (t.before.signed.isEmpty || t.events.all fun e => match e.call with
    | .upsertCa _ => false
    | _ => true) &&
  match t.task, t.before.ca with
  | .issue .., some row => !(t.before.installed.map pki.own).contains
    ⟨(pki.parse row.certPem).subject, pki.keyOf row.privateKeyPem, row.serialCounter⟩
  | _, _ => true

theorem keepsSerials_sound {t : CaTurn} (h : keepsSerials pki t = true) :
    KeepsSerials pki t := by
  rw [keepsSerials, Bool.and_eq_true, Bool.or_eq_true] at h
  refine ⟨fun row hrow => ?_, fun serialNumber csrPem row htask hca => ?_⟩
  · rcases h.1 with hnone | hall
    · exact List.isEmpty_iff.mp hnone
    · exact absurd (all_eq_true.mp hall _ hrow) (by simp)
  · have hown := h.2
    rw [htask, hca] at hown
    simpa using hown

/-- The certificates of the examples: two generated authorities, and an uploaded
one with the serial number 99. -/
def examplePki : Pki where
  keyOf privateKeyPem := privateKeyPem
  parse certPem :=
    let name := "CN=Applivery SOAR CA (acme)"
    if certPem = "ca key 1" then ⟨name, name, "key 1", 1⟩
    else if certPem = "ca key 2" then ⟨name, name, "key 2", 1⟩
    else ⟨"CN=Corp", "CN=Corp", "corp key", 99⟩

/-- An uploaded authority that issues two certificates. -/
def uploadedTurns : List CaTurn :=
  turnsFrom examplePki CaStore.empty
    [.upload "admin" "corp ca" "corp key" false, .issue "SN1" "csr", .issue "SN2" "csr"]

/-- A generated authority that issues a certificate and is generated again. -/
def replacedTurns : List CaTurn :=
  turnsFrom examplePki CaStore.empty
    [.generate "admin" false, .issue "SN1" "csr", .generate "admin" true, .issue "SN2" "csr"]

/-- `SerialFree`, as a check. -/
def serialFree (pki : Pki) (s : CaStore) (e : CaEvent) : Bool :=
  match e with
  | ⟨.mtls (.claimNextSerial _), .ok serial⟩ =>
    (s.signed.all fun leaf => leaf.serial ≠ serial) &&
      s.rows.all fun row => row.serialHex ≠ serialToHex serial
  | ⟨.mtls (.createLeaf _ _ caCertPem caPrivateKeyPem serialHex _), .ok _⟩ =>
    !(s.signed ++ s.installed.map pki.own).contains
      (pki.leaf caCertPem caPrivateKeyPem serialHex)
  | ⟨.mtls (.createCertificate record _), _⟩ =>
    s.rows.all fun row =>
      !(row.workspaceSlug = record.workspaceSlug && row.serialHex = record.serialHex)
  | _ => true

theorem serialFree_complete (h : SerialFree pki s e) :
    serialFree pki s e = true := by
  unfold SerialFree at h
  unfold serialFree
  split at h
  · rw [Bool.and_eq_true, all_eq_true, all_eq_true]
    exact ⟨fun leaf hleaf => by simpa using h.1 leaf hleaf,
      fun row hrow => by simpa using h.2 row hrow⟩
  · simpa using h
  · refine all_eq_true.mpr fun row hrow => ?_
    have hfree := h row hrow
    rw [Bool.not_eq_true', Bool.and_eq_false_iff, decide_eq_false_iff_not,
      decide_eq_false_iff_not]
    exact not_and_or.mp hfree
  · rfl

/-- Every event of the sequence passes the check. -/
def serialsUnique (pki : Pki) (ts : List CaTurn) : Bool :=
  ts.all fun t => (List.range t.events.length).all fun i =>
    t.events[i]?.all fun e => serialFree pki ((caWorld pki).after t.before (t.events.take i)) e

theorem serialsUnique_complete (h : SerialsUnique pki ts) :
    serialsUnique pki ts = true := by
  refine all_eq_true.mpr fun t ht => all_eq_true.mpr fun i hi => ?_
  rw [mem_range] at hi
  rw [getElem?_eq_getElem hi, Option.all_some]
  refine serialFree_complete (h t ht _ _ (t.events.drop (i + 1)) ?_)
  rw [getElem_cons_drop, take_append_drop]

theorem serials_unique_uploaded : SerialsUnique examplePki uploadedTurns := by
  obtain ⟨s, hs⟩ := sequence_turnsFrom (.start : CaSequence examplePki _ _ _)
    [.upload "admin" "corp ca" "corp key" false, .issue "SN1" "csr", .issue "SN2" "csr"]
  have hcheck : uploadedTurns.all (keepsSerials examplePki) = true := by decide +kernel
  exact serials_unique hs fun t ht => keepsSerials_sound (all_eq_true.mp hcheck t ht)

/-- The first certificate of a generated authority has the authority's own
serial number, and the first one after it is generated again has a serial
that the table refuses. -/
theorem replaced_authority_repeats_serials :
    (∃ s, CaSequence examplePki "acme" replacedTurns s) ∧
    ¬SerialsUnique examplePki (replacedTurns.take 2) ∧
    ¬SerialsUnique examplePki (replacedTurns.drop 2) ∧
    replacedTurns.map (fun t => t.result.isOk) = [true, true, true, false] := by
  have hruns := sequence_turnsFrom (.start : CaSequence examplePki _ _ _)
    [.generate "admin" false, .issue "SN1" "csr", .generate "admin" true, .issue "SN2" "csr"]
  refine ⟨hruns, fun h => ?_, fun h => ?_, by decide +kernel⟩
  · have hcheck := serialsUnique_complete h
    revert hcheck
    decide +kernel
  · have hcheck := serialsUnique_complete h
    revert hcheck
    decide +kernel

end AppliverySoar.Mtls
