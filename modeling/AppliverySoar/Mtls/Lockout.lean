import AppliverySoar.Mtls.Issuance
import AppliverySoar.Mtls.Serials

/-!
# Devices that a new authority locks out

Storing an authority touches its row alone: the certificates that the one before
has signed stay active, and while one is active a registration for its device is
refused until an administrator revokes it.

Results:
* `signed_by_read`: a certificate is signed under the authority that was read
  for it.
* `locked_out_only_by_replacement`: an active certificate chains to the current
  authority unless another was stored after the authority it was signed under
  had been read; a device without active certificates can register, and a
  revocation takes the last one away.
* `replaced_authority_locks_out`: a device that is known, has a certificate
  and can neither renew it nor register.
-/

namespace AppliverySoar.Mtls

open Async Prog Workflows Compliance List

/-! ## The system -/

/-- The certificates, and the authority of one workspace. -/
structure AuthorityStore where
  certs : CertStore
  ca : Option CertificateAuthority

/-- What a certificate call is answered of the authority of the workspace. A
certificate says what it was made with. -/
def AuthorityStore.mayLeaf (pki : Pki) (workspaceSlug : String) (s : AuthorityStore)
    (e : MtlsEvent) : Prop :=
  match e with
  | ⟨.getCaForSigning slug, .ok found⟩ => slug = workspaceSlug → found = s.ca.map fun row =>
    ⟨row.certPem, row.privateKeyPem, row.leafValidityDays⟩
  | ⟨.claimNextSerial slug, .ok serial⟩ =>
    slug = workspaceSlug → ∃ row, s.ca = some row ∧ serial = row.serialCounter
  | ⟨.createLeaf _ subject caCertPem caPrivateKeyPem serialHex _, .ok leaf⟩ =>
    pki.parse leaf.1 =
      ⟨subject, (pki.parse caCertPem).subject, pki.keyOf caPrivateKeyPem, hexValue serialHex⟩
  | _ => True

/-- What calls are answered. -/
def AuthorityStore.may (pki : Pki) (workspaceSlug : String) (s : AuthorityStore) (c : CaCall)
    (r : Except ServiceError (CaCall.Answer c)) : Prop :=
  match (⟨c, r⟩ : CaEvent) with
  | ⟨.mtls c, r⟩ => s.certs.may c r ∧ s.mayLeaf pki workspaceSlug ⟨c, r⟩
  | ⟨.findCa, .ok found⟩ => found = s.ca
  | ⟨.createSelfSigned serialNumber name privateKeyPem, .ok cert⟩ =>
    pki.parse cert.1 = ⟨name, name, pki.keyOf privateKeyPem, hexValue serialNumber⟩
  | _ => True

/-- The authority after an answered call. -/
def AuthorityStore.caNext (workspaceSlug : String) (s : AuthorityStore) (e : CaEvent) :
    Option CertificateAuthority :=
  match e with
  | ⟨.mtls (.claimNextSerial slug), .ok _⟩ =>
    if slug = workspaceSlug then
      s.ca.map fun row => { row with serialCounter := row.serialCounter + 1 }
    else s.ca
  | ⟨.upsertCa row, .ok _⟩ => some row
  | _ => s.ca

/-- What an answered call leaves. -/
def AuthorityStore.next (workspaceSlug : String) (s : AuthorityStore) (c : CaCall)
    (r : Except ServiceError (CaCall.Answer c)) : AuthorityStore where
  certs := match (⟨c, r⟩ : CaEvent) with
    | ⟨.mtls c, r⟩ => s.certs.next c r
    | _ => s.certs
  ca := s.caNext workspaceSlug ⟨c, r⟩

/-- The tables as the functions see them. -/
def authorityWorld (pki : Pki) (workspaceSlug : String) :
    World caSig ServiceError AuthorityStore :=
  ⟨AuthorityStore.may pki workspaceSlug, AuthorityStore.next workspaceSlug⟩

/-- What administrators ask for of the authority, and what is asked for of
certificates. -/
inductive AuthorityTask
  | generate (actor : String) (confirmReplace : Bool)
  | upload (actor certPem privateKeyPem : String) (confirmReplace : Bool)
  | device (task : MtlsTask)
  deriving DecidableEq

/-- What a task runs. -/
def AuthorityTask.body (workspaceSlug secret : String) : AuthorityTask → Ca Unit
  | .generate actor confirmReplace => do
    let _ ← generateCa workspaceSlug actor confirmReplace
  | .upload actor certPem privateKeyPem confirmReplace => do
    let _ ← uploadCa actor certPem privateKeyPem confirmReplace
  | .device task => (task.body secret).embed mtlsCalls

/-- The tasks over the tables. -/
def authoritySystem (pki : Pki) (workspaceSlug secret : String) :
    System caSig ServiceError AuthorityStore AuthorityTask where
  world := authorityWorld pki workspaceSlug
  body := AuthorityTask.body workspaceSlug secret
  starts _ _ := []

/-- A label of a run. -/
abbrev AuthorityLabel := Label caSig ServiceError AuthorityTask

/-! ## Statements -/

/-- The certificate was signed with the key and under the name of the authority:
the proxy accepts it. -/
def Pki.Chains (pki : Pki) (certPem caCertPem caPrivateKeyPem : String) : Prop :=
  (pki.parse certPem).issuer = (pki.parse caCertPem).subject ∧
    (pki.parse certPem).signingKey = pki.keyOf caPrivateKeyPem

/-- The certificate chains to the authority of the workspace. -/
def AuthorityStore.Accepted (pki : Pki) (s : AuthorityStore) (row : DeviceCertificate) : Prop :=
  ∃ ca, s.ca = some ca ∧ pki.Chains row.certPem ca.certPem ca.privateKeyPem

/-- A registration for the device that begins now finds no active certificate. -/
def AuthorityStore.RegistrationOpen (pki : Pki) (workspaceSlug : String) (s : AuthorityStore)
    (serialNumber : String) : Prop :=
  ∀ csrPem bootstrapToken es rest,
    Prog.Steps ((registerDevice workspaceSlug ⟨csrPem, serialNumber⟩ bootstrapToken).embed mtlsCalls)
      es rest → (authorityWorld pki workspaceSlug).Accepts s es →
    ∀ id, (⟨.mtls (.findActiveCertificate workspaceSlug serialNumber), .ok (some id)⟩ : CaEvent) ∉ es

/-- The device can renew an active certificate, or register. -/
def AuthorityStore.NotLockedOut (pki : Pki) (workspaceSlug : String) (s : AuthorityStore)
    (serialNumber : String) : Prop :=
  (∃ row ∈ s.certs.activeRows workspaceSlug serialNumber, s.Accepted pki row) ∨
    s.RegistrationOpen pki workspaceSlug serialNumber

/-- The certificate was signed under an authority that had been read for it
before another one was stored. -/
def Replaced (pki : Pki) (workspaceSlug : String) (tr : List AuthorityLabel)
    (row : DeviceCertificate) : Prop :=
  ∃ pre l post ca, tr = pre ++ l :: post ∧
    l.event = ⟨.mtls (.getCaForSigning workspaceSlug), .ok (some ca)⟩ ∧
    pki.Chains row.certPem ca.certPem ca.privateKeyPem ∧
    ∃ l' ∈ post, ∃ stored, l'.event = ⟨.upsertCa stored, .ok ()⟩

/-! ## What a certificate is signed with -/

/-- A certificate that is inserted was signed under the authority that had been
read for its workspace. -/
def SignedByRead (es : List MtlsEvent) : MtlsCall → Prop
  | .createCertificate record _ => ∃ ca csrPem subject serialHex days notBefore notAfter,
      (⟨.getCaForSigning record.workspaceSlug, .ok (some ca)⟩ : MtlsEvent) ∈ es ∧
      (⟨.createLeaf csrPem subject ca.certPem ca.privateKeyPem serialHex days,
        .ok (record.certPem, notBefore, notAfter)⟩ : MtlsEvent) ∈ es
  | _ => True

section Signing

variable {es : List MtlsEvent}

theorem signed_of_quiet {α : Type} {p : Mtls α} (hp : p.Calls fun c => MtlsCall.quiet c = true)
    (es : List MtlsEvent) : p.Meets (World.log _ _) SignedByRead es fun _ _ => True := by
  refine (((Prog.ensures_iff_meets _ _ es).mp hp).weaken fun es' c hc => ?_).mono
    fun _ _ _ => trivial
  cases c with
  | createCertificate record thumbprintHex => cases hc
  | _ => trivial

theorem signed_signDeviceCsr (p : SignRequest) (es : List MtlsEvent) :
    (signDeviceCsr p).Meets (World.log _ _) SignedByRead es
      (post (fun leaf es' => es <+: es' ∧ ∃ notBefore notAfter,
        (⟨.createLeaf p.csrPem ("CN=" ++ p.forcedCn) p.caCertPem p.caPrivateKeyPem
          (serialToHex p.serialCounter) p.validityDays,
          .ok (leaf.certPem, notBefore, notAfter)⟩ : MtlsEvent) ∈ es') fun _ _ => True) := by
  unfold signDeviceCsr
  refine Meets.bind (R := fun _ es' => es <+: es') (Meets.attempt
    ⟨trivial, fun _ _ => prefix_append _ _⟩) fun parsed es' hpre => ?_
  cases parsed with
  | error e => trivial
  | ok u =>
    refine Meets.call_bind trivial (fun _ _ => trivial) fun valid _ => ?_
    simp only []
    split_ifs
    · trivial
    · refine Meets.call_bind trivial (fun _ _ => trivial) fun leaf _ => ?_
      obtain ⟨certPem, notBefore, notAfter⟩ := leaf
      exact ⟨(hpre.trans (prefix_append _ _)).trans (prefix_append _ _), notBefore,
        notAfter, mem_append_right _ (mem_singleton_self _)⟩

/-- A certificate is signed under the authority that was read for it. -/
theorem signed_by_read (slug serialNumber csrPem : String) (es : List MtlsEvent) :
    (issueLeaf slug serialNumber csrPem).Meets (World.log _ _) SignedByRead es fun _ _ => True := by
  unfold issueLeaf
  refine Meets.call_bind trivial (fun _ _ => trivial) fun ca _ => ?_
  cases ca with
  | none => trivial
  | some ca =>
    refine Meets.call_bind trivial (fun _ _ => trivial) fun serial _ => ?_
    refine Meets.bind (signed_signDeviceCsr _ _) fun leaf es' hleaf => ?_
    obtain ⟨hpre, notBefore, notAfter, hcreate⟩ := hleaf
    have hread : (⟨.getCaForSigning slug, .ok (some ca)⟩ : MtlsEvent) ∈ es' :=
      hpre.subset (mem_append_left _ (mem_append_right _ (mem_singleton_self _)))
    refine Meets.bind (R := fun _ _ => True) ?_ fun _ _ _ => trivial
    refine Meets.call_bind trivial (fun _ _ => trivial) fun thumbprintHex _ => ?_
    refine Meets.call_bind ⟨ca, _, _, _, _, notBefore, notAfter,
      mem_append_left _ hread, mem_append_left _ hcreate⟩ (fun _ _ => trivial)
        fun _ _ => trivial

theorem signed_bind {α β : Type} {p : Mtls α} {f : α → Mtls β}
    (hp : p.Meets (World.log _ _) SignedByRead es fun _ _ => True)
    (hf : ∀ a es, (f a).Meets (World.log _ _) SignedByRead es fun _ _ => True) :
    (p >>= f).Meets (World.log _ _) SignedByRead es fun _ _ => True :=
  Meets.bind (R := fun _ _ => True) (hp.mono fun r _ _ => by cases r <;> trivial)
    fun a es _ => hf a es

theorem signed_registerDevice (slug : String) (params : CsrPayload)
    (bootstrapToken : Option String) :
    (registerDevice slug params bootstrapToken).Meets (World.log _ _) SignedByRead es
      fun _ _ => True :=
  signed_bind (signed_of_quiet (quiet_verifyGlobalBootstrapToken _ _) _) fun _ es₁ =>
    signed_bind (signed_of_quiet (quiet_assertNotAlreadyActive _ _) es₁) fun _ es₂ =>
    signed_bind (signed_of_quiet (quiet_assertKnownApplivertyDevice _ _) es₂) fun _ es₃ =>
    signed_bind (signed_by_read _ _ _ es₃) fun _ es₄ =>
    signed_of_quiet (Calls.bind (calls_ask rfl) fun _ => calls_ret _) es₄

theorem signed_renewDevice (slug : String) (params : CsrPayload) (verified : String) :
    (renewDevice slug params verified).Meets (World.log _ _) SignedByRead es fun _ _ => True := by
  unfold renewDevice
  split_ifs
  · trivial
  · refine Meets.call_bind trivial (fun _ _ => trivial) fun _ _ => ?_
    exact signed_bind (signed_by_read _ _ _ _) fun _ es₁ =>
      signed_of_quiet (Calls.bind (calls_ask rfl) fun _ => calls_ret _) es₁

theorem signed_task (secret : String) (task : MtlsTask) :
    (task.body secret).Meets (World.log _ _) SignedByRead [] fun _ _ => True := by
  have hend : ∀ (u : Unit) (es : List MtlsEvent), (pure u : Mtls Unit).Meets (World.log _ _)
      SignedByRead es fun _ _ => True := fun _ _ => trivial
  cases task with
  | register workspaceSlug params bootstrapToken =>
    exact signed_bind (signed_registerDevice _ _ _) fun _ => hend ()
  | renew cert header params =>
    refine signed_bind ?_ fun _ => hend ()
    exact signed_bind (signed_of_quiet (quiet_identity _ _) _) fun cn _ => signed_renewDevice _ _ cn
  | authenticate cert header =>
    exact signed_bind (signed_of_quiet (quiet_identity _ _) _) fun _ => hend ()
  | revoke workspaceSlug id reason => exact signed_of_quiet (quiet_revokeCertificate _ _ _) _
  | purge workspaceSlug days => exact signed_of_quiet (quiet_purgeRevokedCertificates _ _) _

end Signing

/-! ## Certificate calls among those of the authority -/

/-- The certificate calls of an exchange. -/
def leafLog (es : List CaEvent) : List MtlsEvent :=
  es.filterMap fun e =>
    match e with
    | ⟨.mtls c, r⟩ => some ⟨c, r⟩
    | _ => none

theorem leafLog_snoc (es : List CaEvent) (c : MtlsCall)
    (r : Except ServiceError (CaCall.Answer (.mtls c))) :
    leafLog (es ++ [⟨.mtls c, r⟩]) = leafLog es ++ [⟨c, r.map (mtlsCalls.answer c)⟩] := by
  have hsame : r.map (mtlsCalls.answer c) = r := by cases r <;> rfl
  rw [hsame]
  simp [leafLog]

theorem mem_leafLog {es : List CaEvent} {e : MtlsEvent} (h : e ∈ leafLog es) :
    (⟨.mtls e.call, e.answer⟩ : CaEvent) ∈ es := by
  obtain ⟨⟨c, r⟩, hmem, hsome⟩ := mem_filterMap.mp h
  cases c with
  | mtls c =>
    obtain rfl := Option.some.inj hsome
    exact hmem
  | _ => cases hsome

theorem certs_next (pki : Pki) (slug : String) (s : AuthorityStore) (e : CaEvent) :
    ((authorityWorld pki slug).next s e.call e.answer).certs =
      certWorld.after s.certs (leafLog [e]) := by
  obtain ⟨c, r⟩ := e
  cases c <;> rfl

theorem certs_after (pki : Pki) (slug : String) (s : AuthorityStore)
    (es : List CaEvent) :
    ((authorityWorld pki slug).after s es).certs = certWorld.after s.certs (leafLog es) := by
  induction es generalizing s with
  | nil => rfl
  | cons e es ih =>
    have hsplit : leafLog (e :: es) = leafLog [e] ++ leafLog es :=
      filterMap_append (l := [e])
    rw [World.after_cons, ih, certs_next, hsplit, World.after_append]

/-- What a call signs, alone or beside the authority. -/
def SignedUnder (es : List CaEvent) : CaCall → Prop
  | .mtls c => SignedByRead (leafLog es) c
  | _ => True

theorem signed_body (slug secret : String) (task : AuthorityTask) :
    (task.body slug secret).Meets (World.log _ _) SignedUnder [] fun _ _ => True := by
  have hsetup : ∀ {p : Ca Unit}, (p.Calls fun c => CaCall.setup c = true) →
      p.Meets (World.log _ _) SignedUnder [] fun _ _ => True := fun hp =>
    (hp.meets_extends (fun _ c hc => by
      cases c with
      | mtls c => cases hc
      | _ => trivial) []).mono fun _ _ _ => trivial
  cases task with
  | generate actor confirmReplace =>
    exact hsetup (Calls.bind (setup_generateCa _ _ _) fun _ => calls_ret _)
  | upload actor certPem privateKeyPem confirmReplace =>
    exact hsetup (Calls.bind (setup_uploadCa _ _ _ _) fun _ => calls_ret _)
  | device task =>
    have hown : (task.body secret).Meets (World.log _ _) SignedByRead (leafLog []) fun _ _ => True :=
      signed_task secret task
    exact Meets.embed_log leafLog_snoc (fun _ _ h => h) hown

/-! ## Which authority a certificate chains to -/

/-- The certificate was signed under an authority that had been read for it. -/
def SignedAfterRead (pki : Pki) (workspaceSlug : String) (tr : List AuthorityLabel)
    (certPem : String) : Prop :=
  ∃ pre l post ca, tr = pre ++ l :: post ∧
    l.event = ⟨.mtls (.getCaForSigning workspaceSlug), .ok (some ca)⟩ ∧
    pki.Chains certPem ca.certPem ca.privateKeyPem

section Runs

variable {pki : Pki} {workspaceSlug secret serialNumber : String} {s : AuthorityStore}
  {ts : List AuthorityTask} {tr pre post : List AuthorityLabel} {l : AuthorityLabel}
  {cfg cfg' : Config caSig ServiceError AuthorityStore AuthorityTask}

theorem SignedAfterRead.append {certPem : String} (h : SignedAfterRead pki workspaceSlug tr certPem)
    (tr' : List AuthorityLabel) : SignedAfterRead pki workspaceSlug (tr ++ tr') certPem := by
  obtain ⟨pre, l, post, ca, rfl, hevent, hchains⟩ := h
  exact ⟨pre, l, post ++ tr', ca, by simp, hevent, hchains⟩

theorem signed_of_created
    (h : Run (authoritySystem pki workspaceSlug secret) always
      ((authoritySystem pki workspaceSlug secret).launch s ts) tr cfg)
    (htr : tr = pre ++ l :: post) {record : CertificateRecord} {thumbprintHex : Option String}
    {id : String} (hevent : l.event = ⟨.mtls (.createCertificate record thumbprintHex), .ok id⟩) :
    SignedAfterRead pki record.workspaceSlug pre record.certPem := by
  have hsigned : SignedUnder l.past l.event.call :=
    h.ok_of_meets (fun _ => SignedUnder) (signed_body workspaceSlug secret) l (by simp [htr])
  rw [hevent] at hsigned
  obtain ⟨ca, csrPem, subject, serialHex, days, notBefore, notAfter, hread, hcreate⟩ := hsigned
  obtain ⟨before, l₁, mid, hpre, hl₁⟩ := h.label_of_past htr (mem_leafLog hread)
  refine ⟨before, l₁, mid, ca, hpre, hl₁, ?_⟩
  -- `createLeaf` has answered a certificate of that authority
  obtain ⟨before', l₂, mid', rfl, hl₂⟩ := h.label_of_past htr (mem_leafLog hcreate)
  obtain ⟨cfg₁, cfg₂, -, hstep, -, -⟩ := h.step_of_append
    (show tr = before' ++ l₂ :: (mid' ++ l :: post) by simp [htr])
  have hmay := hstep.may
  rw [hl₂] at hmay
  have hparse : pki.parse record.certPem =
    ⟨subject, (pki.parse ca.certPem).subject, pki.keyOf ca.privateKeyPem, hexValue serialHex⟩ :=
    hmay.2
  exact ⟨by rw [hparse], by rw [hparse]⟩

/-- **Step lemma**: an active certificate was so before a step, or the step
inserts it. -/
theorem active_of_step (hstep : Step (authoritySystem pki workspaceSlug secret) cfg l cfg')
    {row : DeviceCertificate} (hrow : row ∈ cfg'.store.certs.activeRows workspaceSlug serialNumber) :
    row ∈ cfg.store.certs.activeRows workspaceSlug serialNumber ∨ ∃ record thumbprintHex,
      l.event = ⟨.mtls (.createCertificate record thumbprintHex), .ok row.id⟩ ∧
        row.toCertificateRecord = record := by
  rw [hstep.store_eq] at hrow
  obtain ⟨i, task, past, c, r⟩ := l
  cases c with
  | mtls c =>
    refine (active_next (e := ⟨c, r⟩) hrow).imp_right fun ⟨record, thumbprintHex, hevent, hrecord⟩ =>
      ⟨record, thumbprintHex, ?_, hrecord⟩
    cases hevent
    rfl
  | _ => exact .inl hrow

/-- **Run lemma**: an active certificate was signed under an authority that had
been read for it. -/
theorem signed_of_active (hnone : s.certs.rows = [])
    (h : Run (authoritySystem pki workspaceSlug secret) always
      ((authoritySystem pki workspaceSlug secret).launch s ts) tr cfg) :
    ∀ row ∈ cfg.store.certs.activeRows workspaceSlug serialNumber,
      SignedAfterRead pki workspaceSlug tr row.certPem := by
  induction h with
  | nil =>
    intro row hrow
    rw [CertStore.activeRows, show ((authoritySystem pki workspaceSlug secret).launch s
      ts).store.certs.rows = [] from hnone] at hrow
    cases hrow
  | @snoc tr cfg cfg' l hrun hstep hcond ih =>
    intro row hrow
    rcases active_of_step hstep hrow with hbefore | ⟨record, thumbprintHex, hevent, hrecord⟩
    · exact (ih row hbefore).append [l]
    · have hof := (mem_activeRows.mp hrow).2.1
      simp only [DeviceCertificate.isOf, Bool.and_eq_true, decide_eq_true_eq] at hof
      have hsigned := signed_of_created (hrun.snoc hstep hcond) rfl hevent
      rw [← hrecord] at hsigned
      exact (hof.1 ▸ hsigned).append [l]

/-- The certificate and the key of the authority. -/
def AuthorityStore.pair (s : AuthorityStore) : Option (String × String) :=
  s.ca.map fun row => (row.certPem, row.privateKeyPem)

/-- Without an authority being stored, certificate and key stay. -/
theorem pair_after {es : List CaEvent}
    (h : ∀ stored, (⟨.upsertCa stored, .ok ()⟩ : CaEvent) ∉ es) (s : AuthorityStore) :
    ((authorityWorld pki workspaceSlug).after s es).pair = s.pair := by
  induction es generalizing s with
  | nil => rfl
  | cons e es ih =>
    rw [World.after_cons, ih fun stored hstored => h stored (mem_cons_of_mem _ hstored)]
    show (s.caNext workspaceSlug ⟨e.call, e.answer⟩).map _ = s.ca.map _
    unfold AuthorityStore.caNext
    split
    · split_ifs
      · rw [Option.map_map]
        rfl
      · rfl
    · next row u heq =>
      exact absurd mem_cons_self (heq ▸ h row)
    · rfl

/-- An active certificate chains to the authority, or another one was stored
after the one that it was signed under had been read. -/
theorem accepted_or_replaced (hnone : s.certs.rows = [])
    (h : Run (authoritySystem pki workspaceSlug secret) always
      ((authoritySystem pki workspaceSlug secret).launch s ts) tr cfg) :
    ∀ row ∈ cfg.store.certs.activeRows workspaceSlug serialNumber,
      cfg.store.Accepted pki row ∨ Replaced pki workspaceSlug tr row := by
  intro row hrow
  obtain ⟨pre, l, post, ca, rfl, hevent, hchains⟩ := signed_of_active hnone h row hrow
  by_cases hstored : ∃ l' ∈ post, ∃ stored, l'.event = (⟨.upsertCa stored, .ok ()⟩ : CaEvent)
  · exact .inr ⟨pre, l, post, ca, rfl, hevent, hchains, hstored⟩
  refine .inl ?_
  obtain ⟨cfg₁, cfg₂, hrun, hstep, -, hrun'⟩ := h.step_of_append rfl
  -- what was read is the row of that moment
  have hread : cfg₁.store.pair = some (ca.certPem, ca.privateKeyPem) := by
    have hmay := hstep.may
    rw [hevent] at hmay
    have hfound := hmay.2 rfl
    obtain ⟨row₁, hrow₁, hca⟩ := Option.map_eq_some_iff.mp hfound.symm
    rw [AuthorityStore.pair, hrow₁, ← hca]
    rfl
  have hkept : cfg₂.store.pair = cfg₁.store.pair := by
    rw [hstep.store_eq, hevent]
    rfl
  have hstore : cfg.store = (authorityWorld pki workspaceSlug).after cfg₂.store
      (post.map Label.event) := by
    have hcut : pre ++ l :: post = (pre ++ [l]) ++ post := by simp
    exact (hcut ▸ h).store_of_append hrun'
  have hpair : cfg.store.pair = some (ca.certPem, ca.privateKeyPem) := by
    rw [hstore, pair_after fun stored hmem => ?_, hkept, hread]
    obtain ⟨l', hl', hevent'⟩ := mem_map.mp hmem
    exact hstored ⟨l', hl', stored, hevent'⟩
  obtain ⟨row₂, hrow₂, heq⟩ := Option.map_eq_some_iff.mp hpair
  obtain ⟨hcert, hkey⟩ := Prod.mk.inj heq
  exact ⟨row₂, hrow₂, hcert ▸ hkey ▸ hchains⟩

end Runs

/-! ## Registrations -/

/-- An active certificate is asked for before anything is inserted. -/
def LooksFirst (es : List MtlsEvent) : MtlsCall → Prop
  | .findActiveCertificate .. => ∀ e ∈ es, e.call.quiet = true
  | _ => True

theorem looksFirst_of_calls {es : List MtlsEvent} {c : MtlsCall} (h : c.looksUp = false) :
    LooksFirst es c := by
  cases c with
  | findActiveCertificate workspaceSlug serialNumber => cases h
  | _ => trivial

theorem looksFirst_registerDevice (slug : String) (params : CsrPayload)
    (bootstrapToken : Option String) :
    (registerDevice slug params bootstrapToken).Meets (World.log _ _) LooksFirst []
      fun _ _ => True := by
  have hlater : ∀ {α : Type} {p : Mtls α} (es : List MtlsEvent),
      (p.Calls fun c => MtlsCall.looksUp c = false) →
      p.Meets (World.log _ _) LooksFirst es fun _ _ => True := fun es hp =>
    (hp.meets_extends (fun _ _ => looksFirst_of_calls) es).mono fun _ _ _ => trivial
  -- the token is checked before the lookup
  have htoken : (verifyGlobalBootstrapToken slug bootstrapToken).Meets (World.log _ _)
      LooksFirst [] (post (fun _ es => ∀ e ∈ es, e.call.quiet = true) fun _ _ => True) := by
    refine Meets.call_bind trivial (fun _ _ => trivial) fun token _ => ?_
    have hquiet : ∀ e ∈ (World.log mtlsSig ServiceError).next []
        (.getGlobalBootstrapToken slug) (.ok token), e.call.quiet = true := by
      intro e he
      rw [mem_singleton.mp he]
      rfl
    cases truthy token with
    | none => trivial
    | some secret =>
      dsimp only
      split_ifs
      · trivial
      · exact hquiet
  refine Meets.bind htoken fun _ es hquiet => ?_
  refine Meets.bind (R := fun _ _ => True) ?_ fun _ es₁ _ => hlater es₁ ?_
  · refine Meets.call_bind hquiet (fun _ _ => trivial) fun found _ => ?_
    cases found <;> trivial
  · refine Calls.bind ?_ fun _ => Calls.bind
      (Calls.widen (calls_issueLeaf _ _ _) fun _ => looksUp_of_issueCall) fun _ =>
        Calls.bind (calls_ask rfl) fun _ => calls_ret _
    refine Calls.bind (calls_ask rfl) fun bearer => ?_
    cases truthy bearer with
    | none => exact calls_ret _
    | some bearer =>
      exact Calls.bind (calls_ask rfl) fun serials =>
        Calls.guard fun _ => calls_ret _

theorem registrationOpen_of_none {pki : Pki} {slug serialNumber : String}
    {s : AuthorityStore} (h : s.certs.activeRows slug serialNumber = []) :
    s.RegistrationOpen pki slug serialNumber := by
  intro csrPem bootstrapToken es rest hsteps haccepts id hmem
  obtain ⟨pre, post, rfl⟩ := append_of_mem hmem
  have hown : (registerDevice slug ⟨csrPem, serialNumber⟩ bootstrapToken).Meets
      (World.log _ _) LooksFirst (leafLog []) fun _ _ => True := looksFirst_registerDevice _ _ _
  have hmeets : ((registerDevice slug ⟨csrPem, serialNumber⟩ bootstrapToken).embed
      mtlsCalls).Meets (World.log _ _) (fun es c => ∀ c', c = CaCall.mtls c' →
        LooksFirst (leafLog es) c') [] fun _ _ => True :=
    Meets.embed_log leafLog_snoc (fun es c h c' hc => by cases hc; exact h) hown
  have hquiet : LooksFirst (leafLog pre) (.findActiveCertificate slug serialNumber) := by
    have hok := hmeets.ok_of_append hsteps (World.log_accepts _ _)
    rw [World.log_after] at hok
    exact hok _ rfl
  have hnone : (certWorld.after s.certs (leafLog pre)).activeRows slug serialNumber = [] := by
    refine sublist_nil.mp (h ▸ activeRows_after (fun e he hinserts => ?_) s.certs)
    obtain ⟨record, thumbprintHex, id, rfl, -⟩ := hinserts
    exact absurd (hquiet _ he) (by simp [MtlsCall.quiet])
  have hmay := (World.accepts_append.mp haccepts).2.1.1
  rw [certs_after] at hmay
  obtain ⟨row, hrow, -⟩ := hmay
  rw [hnone] at hrow
  cases hrow

theorem activeRows_revoke {s : CertStore} {slug serial id reason : String}
    (h : ∀ row ∈ s.activeRows slug serial, row.id = id) :
    (s.next (.revokeCertificate id reason) (.ok ())).activeRows slug serial = [] := by
  have hsub : ((s.next (.revokeCertificate id reason) (.ok ())).activeRows slug
      serial).Sublist (s.activeRows slug serial) :=
    activeRows_next s (e := ⟨.revokeCertificate id reason, .ok ()⟩)
      fun ⟨_, _, _, hevent, _⟩ => by cases hevent
  refine eq_nil_iff_forall_not_mem.mpr fun row hrow => ?_
  have hid := h row (hsub.subset hrow)
  obtain ⟨hmem, -, hactive⟩ := mem_activeRows.mp hrow
  obtain ⟨old, -, rfl⟩ := mem_map.mp hmem
  have hself := revoke_retires hactive
  rw [hself] at hid hactive
  rw [← hself, DeviceCertificate.revoke, if_pos hid] at hactive
  simp [DeviceCertificate.active, DeviceCertificate.unretired] at hactive

/-- **Main theorem**: a certificate is active and does not chain to the authority
only where another authority was stored after the one it was signed under
had been read; a device without active certificates can register, and one
whose last one is revoked can again. -/
theorem locked_out_only_by_replacement {pki : Pki} {workspaceSlug secret : String}
    {s : AuthorityStore} {ts : List AuthorityTask} {tr : List AuthorityLabel}
    {cfg : Config caSig ServiceError AuthorityStore AuthorityTask} (hnone : s.certs.rows = [])
    (h : Run (authoritySystem pki workspaceSlug secret) always
      ((authoritySystem pki workspaceSlug secret).launch s ts) tr cfg) (serialNumber : String) :
    (∀ row ∈ cfg.store.certs.activeRows workspaceSlug serialNumber,
      cfg.store.Accepted pki row ∨ Replaced pki workspaceSlug tr row) ∧
    (cfg.store.certs.activeRows workspaceSlug serialNumber = [] →
      cfg.store.RegistrationOpen pki workspaceSlug serialNumber) ∧
    ∀ id reason, (∀ row ∈ cfg.store.certs.activeRows workspaceSlug serialNumber, row.id = id) →
      ((authorityWorld pki workspaceSlug).next cfg.store (.mtls (.revokeCertificate id reason))
        (.ok ())).RegistrationOpen pki workspaceSlug serialNumber :=
  ⟨accepted_or_replaced hnone h, registrationOpen_of_none, fun _ _ honly =>
    registrationOpen_of_none (activeRows_revoke honly)⟩

/-! ## A device under two authorities -/

/-- The certificates of `examplePki`, and one that the first authority issues. -/
def devicePki : Pki where
  keyOf := examplePki.keyOf
  parse certPem :=
    if certPem = "key 1 01" then ⟨"CN=SN1", "CN=Applivery SOAR CA (acme)", "key 1", 1⟩
    else examplePki.parse certPem

/-- A deployment in which everything but the tables answers what it should, where
it can. -/
def AuthorityStore.answer (s : AuthorityStore) :
    (c : CaCall) → Except ServiceError (CaCall.Answer c)
  | .mtls (.getCaForSigning _) => .ok (s.ca.map fun row =>
    ⟨row.certPem, row.privateKeyPem, row.leafValidityDays⟩)
  | .mtls (.claimNextSerial _) =>
    match s.ca with
    | none => .error (.other "Record to update not found.")
    | some row => .ok row.serialCounter
  | .mtls (.createLeaf _ subject caCertPem caPrivateKeyPem serialHex _) =>
    let certPem := caPrivateKeyPem ++ " " ++ serialHex
    if devicePki.parse certPem = ⟨subject, (devicePki.parse caCertPem).subject,
        devicePki.keyOf caPrivateKeyPem, hexValue serialHex⟩ then
      .ok (certPem, 0, 7776000000)
    else .error (.other "asn1")
  | .mtls c => s.certs.answer c
  | .findCa => .ok s.ca
  | .generateEcKeyPair => .ok (if s.ca.isNone then "key 1" else "key 2")
  | .createSelfSigned serialNumber name privateKeyPem =>
    let certPem := "ca " ++ privateKeyPem
    if devicePki.parse certPem =
        ⟨name, name, devicePki.keyOf privateKeyPem, hexValue serialNumber⟩ then
      .ok (certPem, 0, 3650)
    else .error (.other "asn1")
  | .parseCertificate _ => .ok ⟨true, 0, 3650⟩
  | .importEcPrivateKey _ => .ok ()
  | .signChallenge _ => .ok "signature"
  | .verifyChallenge .. => .ok true
  | .upsertCa _ => .ok ()
  | .recordAuditEvent .. => .ok ()

theorem authority_may_answer (s : AuthorityStore) (c : CaCall) :
    (authorityWorld devicePki "acme").may s c (s.answer c) := by
  have hcerts : ∀ c, s.certs.may c (s.certs.answer c) := may_answer s.certs
  cases c with
  | mtls c =>
    cases c with
    | getCaForSigning slug => exact ⟨trivial, fun _ => rfl⟩
    | claimNextSerial slug =>
      cases hca : s.ca with
      | none =>
        rw [show s.answer (.mtls (.claimNextSerial slug)) =
          .error (.other "Record to update not found.") by simp only [AuthorityStore.answer, hca]]
        exact ⟨trivial, trivial⟩
      | some row =>
        rw [show s.answer (.mtls (.claimNextSerial slug)) = .ok row.serialCounter by
          simp only [AuthorityStore.answer, hca]]
        exact ⟨trivial, fun _ => ⟨row, hca, rfl⟩⟩
    | createLeaf csrPem subject caCertPem caPrivateKeyPem serialHex days =>
      by_cases hparse : devicePki.parse (caPrivateKeyPem ++ " " ++ serialHex) =
          ⟨subject, (devicePki.parse caCertPem).subject, devicePki.keyOf caPrivateKeyPem,
            hexValue serialHex⟩
      · rw [show s.answer (.mtls (.createLeaf csrPem subject caCertPem caPrivateKeyPem serialHex
          days)) = .ok (caPrivateKeyPem ++ " " ++ serialHex, 0, 7776000000) from if_pos hparse]
        exact ⟨trivial, hparse⟩
      · rw [show s.answer (.mtls (.createLeaf csrPem subject caCertPem caPrivateKeyPem serialHex
          days)) = .error (.other "asn1") from if_neg hparse]
        exact ⟨trivial, trivial⟩
    | _ => exact ⟨hcerts _, trivial⟩
  | findCa => exact rfl
  | createSelfSigned serialNumber name privateKeyPem =>
    by_cases hparse : devicePki.parse ("ca " ++ privateKeyPem) =
        ⟨name, name, devicePki.keyOf privateKeyPem, hexValue serialNumber⟩
    · rw [show s.answer (.createSelfSigned serialNumber name privateKeyPem) =
        .ok ("ca " ++ privateKeyPem, 0, 3650) from if_pos hparse]
      exact hparse
    · rw [show s.answer (.createSelfSigned serialNumber name privateKeyPem) =
        .error (.other "asn1") from if_neg hparse]
      trivial
  | _ => trivial

/-- An authority is generated, a device registers, and another is generated. -/
def generatedTwice : Config caSig ServiceError AuthorityStore AuthorityTask :=
  (authoritySystem devicePki "acme" "proxy").launch ⟨emptyTable, none⟩
    [.generate "admin" false, .device registration, .generate "admin" true]

/-- The three one after the other, as far as the schedule goes. -/
def generatedRun (schedule : List ℕ) :
    List AuthorityLabel × Config caSig ServiceError AuthorityStore AuthorityTask :=
  generatedTwice.play (authoritySystem devicePki "acme" "proxy") AuthorityStore.answer schedule

/-- The first authority and the registration. -/
def registeredOnly : List ℕ :=
  List.replicate 6 0 ++ List.replicate 12 1

theorem run_generated (schedule : List ℕ) :
    Run (authoritySystem devicePki "acme" "proxy") always generatedTwice
      (generatedRun schedule).1 (generatedRun schedule).2 :=
  Config.run_play _ AuthorityStore.answer authority_may_answer schedule generatedTwice

/-- With one authority the certificate that was issued chains to it. -/
theorem locked_out_only_by_replacement_generated :
    ((generatedRun registeredOnly).2.store.certs.activeRows "acme" "SN1").length = 1 ∧
    (∀ row ∈ (generatedRun registeredOnly).2.store.certs.activeRows "acme" "SN1",
      (generatedRun registeredOnly).2.store.Accepted devicePki row ∨
        Replaced devicePki "acme" (generatedRun registeredOnly).1 row) ∧
    (∀ l ∈ (generatedRun registeredOnly).1, l.task ≠ .generate "admin" true) :=
  ⟨by decide +kernel, (locked_out_only_by_replacement (s := ⟨emptyTable, none⟩) rfl
    (run_generated registeredOnly) "SN1").1, by decide +kernel⟩

/-- The device has been found in the fleet. -/
def KnownToFleet (tr : List AuthorityLabel) (workspaceSlug serialNumber : String) : Prop :=
  ∃ l ∈ tr, ∃ bearer serials,
    l.event = ⟨.mtls (.getDevicesFull bearer workspaceSlug), .ok serials⟩ ∧ serialNumber ∈ serials

/-- With the second authority the device can neither renew its certificate nor
register. -/
theorem replaced_authority_locks_out :
    ¬∀ (pki : Pki) (workspaceSlug secret : String) (s : AuthorityStore) (ts : List AuthorityTask)
      (tr : List AuthorityLabel) (cfg : Config caSig ServiceError AuthorityStore AuthorityTask),
      s.certs.rows = [] → Run (authoritySystem pki workspaceSlug secret) always
        ((authoritySystem pki workspaceSlug secret).launch s ts) tr cfg →
      ∀ serialNumber, KnownToFleet tr workspaceSlug serialNumber →
        cfg.store.NotLockedOut pki workspaceSlug serialNumber := by
  intro hall
  have hknown : KnownToFleet (generatedRun (registeredOnly ++ replicate 6 2)).1 "acme" "SN1" :=
    ⟨_, mem_of_getElem? (i := 9) rfl, "bearer", ["SN1", "SN2"], rfl, by decide⟩
  rcases hall devicePki "acme" "proxy" ⟨emptyTable, none⟩ _ _ _ rfl
    (run_generated (registeredOnly ++ replicate 6 2)) "SN1" hknown with
    ⟨row, hrow, ca, hca, hchains⟩ | hopen
  · have hkeys : ((generatedRun (registeredOnly ++ replicate 6 2)).2.store.ca.all fun ca =>
        ((generatedRun (registeredOnly ++ replicate 6 2)).2.store.certs.activeRows "acme"
          "SN1").all fun row => decide ((devicePki.parse row.certPem).signingKey ≠
            devicePki.keyOf ca.privateKeyPem)) = true := by decide +kernel
    rw [hca, Option.all_some, all_eq_true] at hkeys
    exact of_decide_eq_true (hkeys row hrow) hchains.2
  · refine hopen "csr 2" (some "token") _ _ (steps_execute _ _)
      (accepts_execute authority_may_answer _ _) "row 01" ?_
    exact mem_of_getElem? (i := 1) rfl

end AppliverySoar.Mtls
