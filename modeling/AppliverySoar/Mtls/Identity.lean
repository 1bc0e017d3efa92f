import AppliverySoar.Mtls.CertStore

/-!
# Which certificate lets its holder in

`assertMtlsIdentity` (mtlsIdentity.middleware.ts, lines 96–126) looks for an
active certificate by workspace and common name. The proxy forwards nothing
else of the certificate, so which one of a device's certificates was presented
plays no part.

Results:
* `assertMtlsIdentity_cases`: the middleware refuses the headers or makes that
  lookup.
* `accepted_active_iff`: in every run, whoever is let in has presented an active
  certificate exactly when nobody presents another one than the active
  certificates of a device that has some.
* `superseded_accepted`: a run in which a renewed certificate lets in after its
  renewal.
-/

namespace AppliverySoar.Mtls

open Async Prog Workflows Compliance List

/-! ## The lookup -/

/-- `assertMtlsIdentity` once the headers have passed. -/
def identityLookup (workspaceSlug cn : String) : Mtls String := do
  match ← ask (.findActiveCertificate workspaceSlug cn) with
  | none =>
    fail 401 "The presented client certificate is not a currently active certificate for this workspace (it may be revoked, superseded, or expired)."
  | some id =>
    tryCatchThe ServiceError (ask (.touchLastSeen id)) fun _ => pure ()
    return cn

theorem assertMtlsIdentity_cases (secret : String) (req : IdentityHeaders) :
    (∃ e, assertMtlsIdentity secret req = .ret (.error e)) ∨
      ∃ rawCn, req.certCn = some rawCn ∧ assertMtlsIdentity secret req =
        identityLookup (workspaceOf req.workspaceSlug) (extractCommonName rawCn) := by
  unfold assertMtlsIdentity
  dsimp only
  by_cases hsecret : secret = ""
  · exact .inl ⟨_, if_pos hsecret⟩
  rw [if_neg hsecret]
  by_cases hproxy : truthy req.proxySecret ≠ some secret
  · exact .inl ⟨_, if_pos hproxy⟩
  rw [if_neg hproxy]
  cases hraw : truthy req.certCn with
  | none => exact .inl ⟨_, rfl⟩
  | some rawCn =>
    by_cases hverified : req.certVerified ≠ some "SUCCESS"
    · exact .inl ⟨_, if_pos hverified⟩
    · exact .inr ⟨rawCn, (truthy_eq_some.mp hraw).1, if_neg hverified⟩

/-- A call of `findActiveCertificate`. -/
def MtlsCall.looksUp : MtlsCall → Bool
  | .findActiveCertificate .. => true
  | _ => false

/-- The calls of `issueLeaf` for a device. -/
def IssueCall (workspaceSlug serialNumber : String) : MtlsCall → Prop
  | .createCertificate record _ =>
    record.workspaceSlug = workspaceSlug ∧ record.serialNumber = serialNumber
  | .getCaForSigning _ | .claimNextSerial _ | .parseCsr _ | .verifyCsr _ | .createLeaf ..
  | .getCertificateThumbprintHex _ => True
  | _ => False

theorem looksUp_of_issueCall {slug serialNumber : String} {c : MtlsCall}
    (h : IssueCall slug serialNumber c) : c.looksUp = false := by
  cases c with
  | findActiveCertificate ws serial => exact absurd h id
  | _ => rfl

theorem calls_ask {okc : MtlsCall → Prop} {c : MtlsCall} (h : okc c) : (ask c : Mtls _).Calls okc :=
  calls_call h

theorem calls_signDeviceCsr (slug serial : String) (p : SignRequest) :
    (signDeviceCsr p).Calls (IssueCall slug serial) := by
  unfold signDeviceCsr
  refine Calls.bind (Calls.attempt (calls_ask trivial)) fun parsed => ?_
  cases parsed with
  | error _ => exact calls_ret _
  | ok _ =>
    refine Calls.bind (calls_ask trivial) fun _ => Calls.guard fun _ => ?_
    exact Calls.bind (calls_ask trivial) fun _ => calls_ret _

theorem calls_issueLeaf (slug serial csrPem : String) :
    (issueLeaf slug serial csrPem).Calls (IssueCall slug serial) := by
  unfold issueLeaf issueCertificateRecord
  refine Calls.bind (calls_ask trivial) fun ca => ?_
  cases ca with
  | none => exact calls_ret _
  | some ca =>
    refine Calls.bind (calls_ask trivial) fun _ =>
      Calls.bind (calls_signDeviceCsr _ _ _) fun leaf =>
        Calls.bind ?_ fun _ => calls_ret _
    exact Calls.bind (calls_ask trivial) fun _ =>
      Calls.bind (calls_ask ⟨rfl, rfl⟩) fun _ => calls_ret _

theorem calls_renewDevice (slug : String) (params : CsrPayload) (verified : String) :
    (renewDevice slug params verified).Calls fun c => MtlsCall.looksUp c = false := by
  unfold renewDevice
  refine Calls.guard fun _ => ?_
  refine Calls.bind (calls_ask rfl) fun _ => Calls.bind
    (Calls.widen (calls_issueLeaf _ _ _) fun _ => looksUp_of_issueCall) fun _ => ?_
  exact Calls.bind (calls_ask rfl) fun _ => calls_ret _

/-! ## Statements -/

/-- The certificate that a task presents, and the workspace that it names. -/
def MtlsTask.presents : MtlsTask → Option (ClientCertificate × Option String)
  | .renew cert workspaceSlug _ => some (cert, workspaceSlug)
  | .authenticate cert workspaceSlug => some (cert, workspaceSlug)
  | _ => none

/-- The lookup that a presented certificate leads to. -/
def ClientCertificate.lookup (cert : ClientCertificate) (workspaceSlug : Option String) :
    MtlsCall :=
  .findActiveCertificate (workspaceOf workspaceSlug) (extractCommonName cert.subject)

/-- The certificate itself is an active one of the device. -/
def CertStore.IsActive (s : CertStore) (workspaceSlug serialNumber : String)
    (cert : ClientCertificate) : Prop :=
  ∃ row ∈ s.activeRows workspaceSlug serialNumber, row.certPem = cert.certPem

/-- The device that the certificate names in the workspace has active
certificates, and this one is not among them. -/
def CertStore.Stale (s : CertStore) (cert : ClientCertificate) (workspaceSlug : Option String) :
    Prop :=
  s.activeRows (workspaceOf workspaceSlug) (extractCommonName cert.subject) ≠ [] ∧
    ¬s.IsActive (workspaceOf workspaceSlug) (extractCommonName cert.subject) cert

instance (s : CertStore) (workspaceSlug serialNumber : String) (cert : ClientCertificate) :
    Decidable (s.IsActive workspaceSlug serialNumber cert) :=
  inferInstanceAs (Decidable (∃ row ∈ _, _))

instance (s : CertStore) (cert : ClientCertificate) (workspaceSlug : Option String) :
    Decidable (s.Stale cert workspaceSlug) :=
  inferInstanceAs (Decidable (_ ∧ _))

/-- The label is the lookup for a presented certificate, and with its answer
`assertMtlsIdentity` is bound to let the holder in, whatever it is answered
from there on. -/
def LetsIn (secret : String) (l : MtlsLabel) (cert : ClientCertificate)
    (workspaceSlug : Option String) : Prop :=
  l.task.presents = some (cert, workspaceSlug) ∧ l.event.call = cert.lookup workspaceSlug ∧
    ∃ rest, Prog.Steps (assertMtlsIdentity secret (cert.headers secret workspaceSlug))
      (l.past ++ [l.event]) rest ∧
      rest.Meets (World.log _ _) (fun _ _ => True) [] fun r _ => ∃ cn, r = .ok cn

/-- Whoever is let in has presented an active certificate. -/
def AcceptsActive (secret : String) (s : CertStore) (tr : List MtlsLabel) : Prop :=
  ∀ pre l post cert workspaceSlug, tr = pre ++ l :: post → LetsIn secret l cert workspaceSlug →
    (storeAfter s pre).IsActive (workspaceOf workspaceSlug) (extractCommonName cert.subject) cert

/-- Where a lookup for a presented certificate is answered, the certificate is
not stale. -/
def NeverStale (s : CertStore) (tr : List MtlsLabel) : Prop :=
  ∀ pre l post cert workspaceSlug, tr = pre ++ l :: post →
    l.task.presents = some (cert, workspaceSlug) → l.event.call = cert.lookup workspaceSlug →
    l.event.answer.isOk = true → ¬(storeAfter s pre).Stale cert workspaceSlug

/-! ## Every run -/

section Runs

variable {secret : String} {s : CertStore} {ts : List MtlsTask} {tr : List MtlsLabel}
  {cfg : Config mtlsSig ServiceError CertStore MtlsTask} {cert : ClientCertificate}
  {workspaceSlug : Option String}

/-- Nothing is called before a lookup. -/
def FirstLookup (es : List MtlsEvent) (c : MtlsCall) : Prop :=
  c.looksUp = true → es = []

theorem meets_of_calls {α : Type} {p : Mtls α}
    (hp : p.Calls fun c => MtlsCall.looksUp c = false) (es : List MtlsEvent) :
    p.Meets (World.log _ _) FirstLookup es fun _ _ => True :=
  (hp.meets_extends (fun _ _ hc h => absurd (h.symm.trans hc) (by decide)) es).mono
    fun _ _ _ => trivial

theorem meets_identityLookup (slug cn : String) :
    (identityLookup slug cn).Meets (World.log _ _) FirstLookup [] fun _ _ => True := by
  refine Meets.bind (R := fun _ _ => True) ⟨fun _ => rfl, fun r _ => by cases r <;> trivial⟩
    fun found es _ => ?_
  cases found with
  | none => trivial
  | some id =>
    refine meets_of_calls (Calls.bind ?_ fun _ => calls_ret _) es
    exact Calls.tryCatch (calls_ask rfl) fun _ => calls_ret _

/-- A task that presents a certificate begins with the check of its identity. -/
theorem body_of_presents (secret : String) {task : MtlsTask}
    (h : task.presents = some (cert, workspaceSlug)) :
    ∃ f : String → Mtls Unit, (∀ cn, (f cn).Calls fun c => MtlsCall.looksUp c = false) ∧
      task.body secret = assertMtlsIdentity secret (cert.headers secret workspaceSlug) >>= f := by
  cases task with
  | renew cert' slug params =>
    cases h
    refine ⟨fun cn => renewDevice (workspaceOf workspaceSlug) params cn >>= fun _ => pure (),
      fun cn => Calls.bind (calls_renewDevice _ _ _) fun _ => calls_ret _, ?_⟩
    exact Prog.bind_assoc _ _ _
  | authenticate cert' slug =>
    cases h
    exact ⟨fun _ => pure (), fun _ => calls_ret _, rfl⟩
  | _ => cases h

/-- A presented certificate is looked up once, before anything else. -/
theorem lookup_first {task : MtlsTask} (hpresents : task.presents = some (cert, workspaceSlug))
    {past : List MtlsEvent} {c : MtlsCall} {k : Except ServiceError (MtlsCall.Answer c) → Mtls Unit}
    (h : Prog.Steps (task.body secret) past (.await c k)) (hc : c.looksUp = true) :
    past = [] ∧ assertMtlsIdentity secret (cert.headers secret workspaceSlug) =
      identityLookup (workspaceOf workspaceSlug) (extractCommonName cert.subject) := by
  obtain ⟨f, hf, hbody⟩ := body_of_presents secret hpresents
  rw [hbody] at h
  rcases assertMtlsIdentity_cases secret (cert.headers secret workspaceSlug) with
    ⟨e, herror⟩ | ⟨rawCn, hraw, hlookup⟩
  · rw [herror] at h
    cases h
  · obtain rfl := Option.some.inj hraw
    rw [hlookup] at h
    have hmeets : (identityLookup (workspaceOf workspaceSlug) (extractCommonName cert.subject) >>=
        f).Meets (World.log _ _) FirstLookup [] fun _ _ => True :=
      Meets.bind (R := fun _ _ => True)
        ((meets_identityLookup _ _).mono fun r _ _ => by cases r <;> trivial)
        fun cn es _ => meets_of_calls (hf cn) es
    have hfirst := hmeets.ok_of_steps h (World.log_accepts _ _) hc
    rw [World.log_after, nil_append] at hfirst
    exact ⟨hfirst, hlookup⟩

theorem letsIn_iff (h : Run (mtlsSystem secret) always ((mtlsSystem secret).launch s ts) tr cfg)
    {pre post : List MtlsLabel} {l : MtlsLabel} (htr : tr = pre ++ l :: post)
    (hpresents : l.task.presents = some (cert, workspaceSlug))
    (hcall : l.event.call = cert.lookup workspaceSlug) :
    LetsIn secret l cert workspaceSlug ↔
      ∃ id, l.event = ⟨cert.lookup workspaceSlug, .ok (some id)⟩ := by
  obtain ⟨cfg₁, cfg₂, hrun, hstep, -, -⟩ := h.step_of_append htr
  obtain ⟨k, hk⟩ := hstep.thread_before
  obtain ⟨hpast, hassert⟩ := lookup_first hpresents (hrun.thread_spec hk).2 (by rw [hcall]; rfl)
  have hpast' : l.past = [] := hpast
  obtain ⟨i, task, past, c, r⟩ := l
  subst hpast' hcall
  constructor
  · rintro ⟨-, -, rest, hsteps, hin⟩
    rw [hassert] at hsteps
    have hrefused : ∀ e, ¬Prog.Steps (.ret (.error e) : Mtls String) [] rest := by
      rintro e hrest
      cases hrest
      obtain ⟨cn, hcn⟩ := hin
      cases hcn
    match r, hsteps with
    | .ok (some id), _ => exact ⟨id, rfl⟩
    | .ok none, .head hrest => exact absurd hrest (hrefused _)
    | .error e, .head hrest => exact absurd hrest (hrefused _)
  · rintro ⟨id, hevent⟩
    obtain rfl := eq_of_heq (Event.mk.inj hevent).2
    refine ⟨hpresents, rfl, ?_⟩
    rw [hassert]
    refine ⟨_, .head (.refl _), trivial, fun r _ => ?_⟩
    cases r <;> exact ⟨_, rfl⟩

/-- **Main theorem**: in every run, all who are let in have presented an active
certificate exactly when no lookup is answered for a stale one. -/
theorem accepted_active_iff
    (h : Run (mtlsSystem secret) always ((mtlsSystem secret).launch s ts) tr cfg) :
    AcceptsActive secret s tr ↔ NeverStale s tr := by
  constructor
  · intro haccepts pre l post cert workspaceSlug htr hpresents hcall hanswered hstale
    obtain ⟨id, hevent⟩ : ∃ id, l.event = ⟨cert.lookup workspaceSlug, .ok (some id)⟩ := by
      have hmay := may_of_run h htr
      obtain ⟨i, task, past, c, r⟩ := l
      subst hcall
      match r, hanswered, hmay with
      | .ok (some id), _, _ => exact ⟨id, rfl⟩
      | .ok none, _, hnone => exact absurd hnone hstale.1
    exact hstale.2 (haccepts pre l post cert workspaceSlug htr
      ((letsIn_iff h htr hpresents hcall).mpr ⟨id, hevent⟩))
  · intro hnever pre l post cert workspaceSlug htr hin
    obtain ⟨hpresents, hcall, -⟩ := id hin
    obtain ⟨id, hevent⟩ := (letsIn_iff h htr hpresents hcall).mp hin
    have hmay := may_of_run h htr
    rw [hevent] at hmay
    obtain ⟨row, hrow, -⟩ := hmay
    by_contra hinactive
    refine hnever pre l post cert workspaceSlug htr hpresents hcall ?_
      ⟨ne_nil_of_mem hrow, hinactive⟩
    rw [hevent]
    rfl

end Runs

/-! ## A device that renews its certificate -/

/-- The first certificate of the device. -/
def firstCertificate : ClientCertificate where
  subject := "CN=SN1"
  certPem := "cert 05"
  verification := "SUCCESS"

/-- The device registers. -/
def registration : MtlsTask :=
  .register "acme" ⟨"csr 1", "SN1"⟩ (some "token")

/-- It registers and is let in elsewhere. -/
def enrolled : Config mtlsSig ServiceError CertStore MtlsTask :=
  (mtlsSystem "proxy").launch emptyTable [registration, .authenticate firstCertificate (some "acme")]

/-- The trace when it does so in this order. -/
def enrolledTrace : List MtlsLabel :=
  (enrolled.play (mtlsSystem "proxy") CertStore.answer
    (List.replicate 12 0 ++ List.replicate 2 1)).1

/-- It registers, renews its certificate, and goes on with the first one. -/
def renewed : Config mtlsSig ServiceError CertStore MtlsTask :=
  (mtlsSystem "proxy").launch emptyTable [registration,
    .renew firstCertificate (some "acme") ⟨"csr 2", "SN1"⟩,
    .authenticate firstCertificate (some "acme")]

/-- The trace when it does so in this order. -/
def renewedTrace : List MtlsLabel :=
  (renewed.play (mtlsSystem "proxy") CertStore.answer
    (List.replicate 12 0 ++ List.replicate 11 1 ++ List.replicate 2 2)).1

/-- A check of `NeverStale`. -/
def neverStale (s : CertStore) : List MtlsLabel → Bool :=
  everyCut fun pre l _ => l.task.presents.all fun (cert, workspaceSlug) =>
    l.event.call ≠ cert.lookup workspaceSlug ||
      !decide ((storeAfter s pre).Stale cert workspaceSlug)

theorem neverStale_sound {s : CertStore} {tr : List MtlsLabel} (h : neverStale s tr = true) :
    NeverStale s tr := by
  rintro pre l post cert workspaceSlug rfl hpresents hcall -
  have hcut := everyCut_sound h
  simpa [hpresents, hcall] using hcut

/-- Before its renewal the certificate lets in, and is active. -/
theorem accepted_active_enrolled :
    (∃ l, enrolledTrace[12]? = some l ∧ l.event = ⟨firstCertificate.lookup (some "acme"),
      .ok (some "row 05")⟩) ∧ AcceptsActive "proxy" emptyTable enrolledTrace :=
  ⟨⟨_, rfl, rfl⟩, (accepted_active_iff (Config.run_play (mtlsSystem "proxy") CertStore.answer
    may_answer _ enrolled)).mpr (neverStale_sound (by decide +kernel))⟩

/-- After its renewal the superseded certificate still lets in. -/
theorem superseded_accepted :
    ¬∀ (secret : String) (s : CertStore) (ts : List MtlsTask) (tr : List MtlsLabel)
      (cfg : Config mtlsSig ServiceError CertStore MtlsTask),
      Run (mtlsSystem secret) always ((mtlsSystem secret).launch s ts) tr cfg →
      AcceptsActive secret s tr := by
  intro hall
  have hrun := Config.run_play (mtlsSystem "proxy") CertStore.answer may_answer
    (replicate 12 0 ++ replicate 11 1 ++ replicate 2 2) renewed
  have htr : renewedTrace = renewedTrace.take 23 ++ _ := (take_append_drop 23 _).symm
  have hin : LetsIn "proxy" _ firstCertificate (some "acme") :=
    (letsIn_iff hrun htr rfl rfl).mpr ⟨"row 10", rfl⟩
  exact absurd (hall _ _ _ _ _ hrun _ _ _ firstCertificate (some "acme") htr hin)
    (by decide +kernel)

end AppliverySoar.Mtls
