import AppliverySoar.Mtls.Identity

/-!
# What a failed renewal leaves behind

`POST /api/device-mtls/renew` (deviceMtls.service.ts, lines 149–174) supersedes
the active certificates of the device before it issues the new one. Whatever
fails from there on, they stay superseded.

Results:
* `rows_kept`: calls that neither supersede nor revoke nor purge leave every
  row as it is.
* `failed_renewal_harmless_iff`: a renewal that fails leaves the rows as they
  were exactly when it is refused before it supersedes, or the database refuses
  to supersede.
* `garbage_locks_out`: a renewal with a CSR that does not parse leaves the
  device without an active certificate.
-/

namespace AppliverySoar.Mtls

open Async Workflows Compliance List

/-- The renewal of a request, alone over the table, is answered `es` and throws
`err`. -/
def RenewalFails (secret : String) (req : IdentityHeaders) (params : CsrPayload) (s : CertStore)
    (es : List MtlsEvent) (err : ServiceError) : Prop :=
  Prog.Steps (renewRoute secret req params) es (.ret (.error err)) ∧ certWorld.Accepts s es

/-- The table is as it was. -/
def Harmless (s : CertStore) (es : List MtlsEvent) : Prop :=
  (certWorld.after s es).rows = s.rows

/-- No active certificate has been found for the identity, or it is not the
identity of the device to renew, or the database refuses to supersede. -/
def RefusedEarly (req : IdentityHeaders) (params : CsrPayload) (es : List MtlsEvent) : Prop :=
  (∀ workspaceSlug serialNumber id,
    ⟨.findActiveCertificate workspaceSlug serialNumber, .ok (some id)⟩ ∉ es) ∨
  req.certCn.map extractCommonName ≠ some params.serialNumber ∨
  ∃ workspaceSlug serialNumber e, ⟨.supersedeCertificates workspaceSlug serialNumber, .error e⟩ ∈ es

/-! ## Rows -/

/-- A call after which every row is as it was. -/
def MtlsCall.keepsRows : MtlsCall → Bool
  | .supersedeCertificates .. => false
  | .revokeCertificate .. => false
  | .purgeRevoked .. => false
  | _ => true

section Rows

variable {s : CertStore} {es : List MtlsEvent}

theorem rows_next {e : MtlsEvent} (h : e.call.keepsRows = true) :
    s.rows <+: (s.next e.call e.answer).rows := by
  obtain ⟨c, r⟩ := e
  cases r with
  | error e => cases c <;> exact prefix_refl _
  | ok a =>
    cases c with
    | createCertificate record thumbprintHex => exact prefix_append _ _
    | supersedeCertificates workspaceSlug serialNumber => cases h
    | revokeCertificate id reason => cases h
    | purgeRevoked workspaceSlug days => cases h
    | _ => exact prefix_refl _

theorem rows_kept (h : ∀ e ∈ es, e.call.keepsRows = true) (s : CertStore) :
    s.rows <+: (certWorld.after s es).rows := by
  induction es generalizing s with
  | nil => exact prefix_refl _
  | cons e es ih =>
    exact (rows_next (h e mem_cons_self)).trans
      (ih (fun e' he' => h e' (mem_cons_of_mem e he')) _)

theorem map_supersede_ne {slug serial : String}
    (h : s.activeRows slug serial ≠ []) (now : ℕ) :
    s.rows.map (fun row => row.supersede slug serial now) ≠ s.rows := by
  intro heq
  obtain ⟨row, hrow⟩ := exists_mem_of_ne_nil _ h
  obtain ⟨hmem, hof, hactive⟩ := mem_activeRows.mp hrow
  rw [← heq] at hmem
  obtain ⟨row', -, rfl⟩ := mem_map.mp hmem
  exact inactive_of_supersede hof hactive

end Rows

/-! ## Every failed renewal -/

section Renewals

variable {secret : String} {req : IdentityHeaders} {params : CsrPayload} {s : CertStore}
  {es : List MtlsEvent} {err : ServiceError}

theorem steps_await {α : Type} {c : MtlsCall} {k : Except ServiceError (MtlsCall.Answer c) → Mtls α}
    {r : Except ServiceError α} (h : Prog.Steps (.await c k : Mtls α) es (.ret r)) :
    ∃ a rest, es = ⟨c, a⟩ :: rest ∧ Prog.Steps (k a) rest (.ret r) := by
  cases h with
  | head hrest => exact ⟨_, _, rfl, hrest⟩

/-- What follows the supersession neither supersedes nor revokes nor purges. -/
theorem keepsRows_of_issueCall {slug serialNumber : String} {c : MtlsCall}
    (h : IssueCall slug serialNumber c) : c.keepsRows = true := by
  cases c with
  | supersedeCertificates ws serial => exact absurd h id
  | revokeCertificate id reason => exact absurd h (fun h => h)
  | purgeRevoked ws days => exact absurd h id
  | _ => rfl

/-- The answers of a renewal that has superseded, and then throws. -/
theorem failed_of_superseded {touched : Except ServiceError Unit} {rest : List MtlsEvent}
    {slug cn id : String} (hcn : req.certCn.map extractCommonName = some cn)
    (hserial : params.serialNumber = cn) (hactive : s.activeRows slug params.serialNumber ≠ [])
    (hkeeps : ∀ e ∈ rest, e.call.keepsRows = true)
    (hes : es = ⟨.findActiveCertificate slug cn, .ok (some id)⟩ ::
      ⟨.touchLastSeen id, touched⟩ ::
      ⟨.supersedeCertificates slug params.serialNumber, .ok ()⟩ :: rest) :
    ¬Harmless s es ∧ ¬RefusedEarly req params es := by
  constructor
  · intro hsame
    have hprefix := rows_kept hkeeps (certWorld.after s
      [⟨.findActiveCertificate slug cn, .ok (some id)⟩, ⟨.touchLastSeen id, touched⟩,
        ⟨.supersedeCertificates slug params.serialNumber, .ok ()⟩])
    have hrows : s.rows.map (fun row => row.supersede slug params.serialNumber
        (s.clock (s.tick + 2))) <+: (certWorld.after s es).rows := by
      rw [hes]
      cases touched <;> exact hprefix
    unfold Harmless at hsame
    rw [hsame] at hrows
    exact map_supersede_ne hactive _ (hrows.eq_of_length (length_map _))
  · subst hes
    rintro (hnone | hother | ⟨ws, serial, e, hrefused⟩)
    · exact hnone _ _ _ mem_cons_self
    · exact hother (by rw [hcn, hserial])
    · simp only [mem_cons] at hrefused
      rcases hrefused with h | h | h | h
      · cases h
      · cases h
      · cases h
      · cases hkeeps _ h

/-- **Main theorem**: a renewal that fails leaves the table as it was exactly
when it is refused before anything has been superseded. -/
theorem failed_renewal_harmless_iff (h : RenewalFails secret req params s es err) :
    Harmless s es ↔ RefusedEarly req params es := by
  obtain ⟨hsteps, haccepts⟩ := h
  unfold renewRoute at hsteps
  rcases assertMtlsIdentity_cases secret req with ⟨e, herror⟩ | ⟨rawCn, hraw, hlookup⟩
  · rw [herror] at hsteps
    cases hsteps
    exact ⟨fun _ => .inl fun _ _ _ => not_mem_nil, fun _ => rfl⟩
  rw [hlookup] at hsteps
  obtain ⟨found, answered, rfl, hfound⟩ := steps_await hsteps
  match found, hfound with
  | .error e, hfound =>
    cases hfound
    exact ⟨fun _ => .inl fun _ _ _ hmem => (by cases mem_singleton.mp hmem), fun _ => rfl⟩
  | .ok none, hfound =>
    cases hfound
    exact ⟨fun _ => .inl fun _ _ _ hmem => (by cases mem_singleton.mp hmem), fun _ => rfl⟩
  | .ok (some id), hfound =>
    obtain ⟨touched, answered, rfl, htouched⟩ := steps_await hfound
    have hrenew : Prog.Steps (renewDevice (workspaceOf req.workspaceSlug) params
        (extractCommonName rawCn)) answered (.ret (.error err)) := by
      -- what the renewal does is of no account for the steps before it
      generalize renewDevice (workspaceOf req.workspaceSlug) params = renewed at htouched ⊢
      cases touched <;> exact htouched
    unfold renewDevice at hrenew
    have hcn : req.certCn.map extractCommonName = some (extractCommonName rawCn) := by
      rw [hraw, Option.map_some]
    by_cases hserial : params.serialNumber = extractCommonName rawCn
    · rw [if_neg (not_not.mpr hserial)] at hrenew
      obtain ⟨superseded, answered, rfl, hsuperseded⟩ := steps_await hrenew
      match superseded, hsuperseded with
      | .error e, hsuperseded =>
        cases hsuperseded
        exact ⟨fun _ => .inr (.inr ⟨_, _, err,
          mem_cons_of_mem _ (mem_cons_of_mem _ mem_cons_self)⟩), fun _ => rfl⟩
      | .ok (), hsuperseded =>
        obtain ⟨row, hrow, -⟩ := haccepts.1
        rw [← hserial] at hrow
        have hkeeps : ∀ e ∈ answered, MtlsCall.keepsRows e.call = true := by
          refine Prog.Calls.of_steps (Prog.Calls.bind (Prog.Calls.widen (calls_issueLeaf _ _ _)
            fun _ => keepsRows_of_issueCall) fun _ => ?_) hsuperseded
          exact Prog.Calls.bind (calls_ask rfl) fun _ => Prog.calls_ret _
        obtain ⟨hharm, hlate⟩ := failed_of_superseded hcn hserial (ne_nil_of_mem hrow) hkeeps rfl
        exact ⟨fun h => absurd h hharm, fun h => absurd h hlate⟩
    · rw [if_pos hserial] at hrenew
      cases hrenew
      refine ⟨fun _ => .inr (.inl ?_), fun _ => rfl⟩
      rw [hcn]
      exact fun h => hserial (Option.some.inj h).symm

end Renewals

/-! ## A renewal with a CSR that does not parse -/

/-- A table in which the device SN1 has one certificate. -/
def enrolledTable : CertStore where
  rows := [{ workspaceSlug := "acme", serialNumber := "SN1", serialHex := "01", certPem := "cert 01",
             notBefore := 0, notAfter := 1000, id := "row 01", thumbprintHex := none }]
  clock := id
  clock_mono := monotone_id
  tick := 10

/-- The headers of a request with that certificate. -/
def enrolledHeaders : IdentityHeaders :=
  ⟨some "acme", some "proxy", some "SUCCESS", some "CN=SN1"⟩

/-- What a renewal with these headers exchanges over the table, and its end. -/
def renewal (params : CsrPayload) :
    List MtlsEvent × Except ServiceError IssuedCertificateResponse :=
  (renewRoute "proxy" enrolledHeaders params).execute certWorld CertStore.answer enrolledTable

theorem renewal_fails {params : CsrPayload} {err : ServiceError}
    (h : (renewal params).2 = .error err) :
    RenewalFails "proxy" enrolledHeaders params enrolledTable (renewal params).1 err := by
  refine ⟨?_, Prog.accepts_execute may_answer _ _⟩
  rw [← h]
  exact Prog.steps_execute _ _

/-- A renewal for another device is refused and leaves the table as it was. -/
theorem other_renewal_harmless : (renewal ⟨"csr", "SN2"⟩).2.isOk = false ∧
    Harmless enrolledTable (renewal ⟨"csr", "SN2"⟩).1 :=
  ⟨by decide +kernel, (failed_renewal_harmless_iff (renewal_fails rfl)).mpr
    (.inr (.inl (by decide +kernel)))⟩

/-- A renewal with a CSR that does not parse fails, and the device is left
without an active certificate. -/
theorem garbage_locks_out :
    ¬∀ (secret : String) (req : IdentityHeaders) (params : CsrPayload) (s : CertStore)
      (es : List MtlsEvent) (err : ServiceError), RenewalFails secret req params s es err →
      Harmless s es := by
  intro hall
  have hsame := hall _ _ ⟨"garbage", "SN1"⟩ _ _ _ (renewal_fails rfl)
  have hactive : (certWorld.after enrolledTable (renewal ⟨"garbage", "SN1"⟩).1).rows.all
      (fun row => !row.unretired) = true := by decide +kernel
  rw [hsame] at hactive
  exact absurd hactive (by decide)

end AppliverySoar.Mtls
