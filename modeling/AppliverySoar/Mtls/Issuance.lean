import AppliverySoar.Mtls.Identity

/-!
# How many certificates of a device are active

`registerDevice` (deviceMtls.service.ts, lines 122–137) inserts a certificate
some calls after it has asked for an active one, and `renewDevice` (lines
149–174) some calls after it has superseded what was active. In between, other
requests insert theirs.

Results:
* `active_after`: a certificate that has become active was inserted meanwhile.
* `oneActive_of_overlapFree`: from a table with at most one active certificate a
  device, in every run in which no request inserts or supersedes over a
  certificate that was issued behind its back, there is never more than one, and
  only a renewal with that one supersedes it.
* `two_registrations`: two registrations of one device that overlap, and leave
  it with two active certificates.
-/

namespace AppliverySoar.Mtls

open Async Prog Workflows Compliance List

/-! ## Statements -/

/-- No device has more than one active certificate. -/
def CertStore.OneActive (s : CertStore) : Prop :=
  ∀ workspaceSlug serialNumber, (s.activeRows workspaceSlug serialNumber).length ≤ 1

/-- At any time no device has more than one active certificate. -/
def AlwaysOneActive (s : CertStore) (tr : List MtlsLabel) : Prop :=
  ∀ pre post, tr = pre ++ post → (storeAfter s pre).OneActive

/-- Whoever supersedes an active certificate is a renewal that has presented
it. -/
def HolderReplaces (s : CertStore) (tr : List MtlsLabel) : Prop :=
  ∀ pre l post workspaceSlug serialNumber row, tr = pre ++ l :: post →
    l.event = ⟨.supersedeCertificates workspaceSlug serialNumber, .ok ()⟩ →
    row ∈ (storeAfter s pre).activeRows workspaceSlug serialNumber →
    ∃ cert header params, l.task = .renew cert header params ∧ cert.certPem = row.certPem

/-- The ids of the certificates that a trace inserts. -/
def issued (tr : List MtlsLabel) : List String :=
  tr.filterMap fun l =>
    match l.event with
    | ⟨.createCertificate .., .ok id⟩ => some id
    | _ => none

/-- After the event the device has no active certificate: none was found, or
what there was has been superseded. -/
def Clears (workspaceSlug serialNumber : String) (e : MtlsEvent) : Prop :=
  e = ⟨.findActiveCertificate workspaceSlug serialNumber, .ok none⟩ ∨
    e = ⟨.supersedeCertificates workspaceSlug serialNumber, .ok ()⟩

/-- Where a request inserts a certificate for a device, none is active there
that was inserted after the request had found or made it clear. Where a
renewal supersedes an active certificate, that one was not inserted after
the renewal's lookup, and the certificate presented was active then. -/
def overlapFree (s₀ : CertStore) (tr : List MtlsLabel) (s : CertStore) (l : MtlsLabel) : Prop :=
  match l.event.call with
  | .createCertificate record _ =>
    ∀ row ∈ s.activeRows record.workspaceSlug record.serialNumber, ∀ pre c mid,
      tr = pre ++ c :: mid → c.thread = l.thread →
      Clears record.workspaceSlug record.serialNumber c.event → row.id ∉ issued mid
  | .supersedeCertificates workspaceSlug serialNumber =>
    ∀ row ∈ s.activeRows workspaceSlug serialNumber, ∀ pre c mid cert header,
      tr = pre ++ c :: mid → c.thread = l.thread → l.task.presents = some (cert, header) →
      c.event.call = .findActiveCertificate workspaceSlug serialNumber → row.id ∉ issued mid ∧
        (storeAfter s₀ pre).IsActive workspaceSlug serialNumber cert
  | _ => True

/-! ## What a request has done before it inserts or supersedes -/

/-- A call that neither inserts nor supersedes. -/
def MtlsCall.quiet : MtlsCall → Bool
  | .createCertificate .. => false
  | .supersedeCertificates .. => false
  | _ => true

/-- The device has been found or made clear before an insertion, and an active
certificate been found before a supersession, which only renewals make. -/
def Grounded (task : MtlsTask) (es : List MtlsEvent) : MtlsCall → Prop
  | .createCertificate record _ => ∃ e ∈ es, Clears record.workspaceSlug record.serialNumber e
  | .supersedeCertificates workspaceSlug serialNumber => ∃ cert header params id,
      task = .renew cert header params ∧
        ⟨.findActiveCertificate workspaceSlug serialNumber, .ok (some id)⟩ ∈ es
  | _ => True

section Grounded

variable {task : MtlsTask} {es : List MtlsEvent} (slug serial : String)

theorem grounded_of_quiet {c : MtlsCall} (h : c.quiet = true) : Grounded task es c := by
  cases c with
  | createCertificate record thumbprintHex => cases h
  | supersedeCertificates workspaceSlug serialNumber => cases h
  | _ => trivial

theorem meets_quiet {α : Type} {p : Mtls α} (hp : p.Calls fun c => MtlsCall.quiet c = true)
    (es : List MtlsEvent) :
    p.Meets (World.log _ _) (Grounded task) es fun _ es' => es <+: es' :=
  hp.meets_extends (fun _ _ => grounded_of_quiet) es

/-- `issueLeaf` for a device that is clear. -/
theorem meets_issueLeaf {slug serialNumber : String} {e : MtlsEvent} (he : e ∈ es)
    (hclears : Clears slug serialNumber e) (csrPem : String) :
    (issueLeaf slug serialNumber csrPem).Meets (World.log _ _) (Grounded task) es
      fun _ _ => True := by
  have hcalls := (Prog.ensures_iff_meets _ _ es).mp (calls_issueLeaf slug serialNumber csrPem)
  refine (hcalls.extends_ok.weaken fun es' c h => ?_).mono fun _ _ _ => trivial
  obtain ⟨hcall, hpre⟩ := h
  cases c with
  | createCertificate record thumbprintHex =>
    obtain ⟨rfl, rfl⟩ := hcall
    exact ⟨e, hpre.subset he, hclears⟩
  | supersedeCertificates ws serial => exact absurd hcall id
  | _ => trivial

theorem quiet_identity (secret : String) (req : IdentityHeaders) :
    (assertMtlsIdentity secret req).Calls fun c => MtlsCall.quiet c = true := by
  rcases assertMtlsIdentity_cases secret req with ⟨e, herror⟩ | ⟨rawCn, -, hlookup⟩
  · rw [herror]
    exact calls_ret _
  · rw [hlookup]
    refine Calls.bind (calls_ask rfl) fun found => ?_
    cases found with
    | none => exact calls_ret _
    | some id => exact Calls.bind (Calls.tryCatch (calls_ask rfl) fun _ =>
        calls_ret _) fun _ => calls_ret _

theorem quiet_verifyGlobalBootstrapToken (slug : String) (provided : Option String) :
    (verifyGlobalBootstrapToken slug provided).Calls fun c => MtlsCall.quiet c = true := by
  refine Calls.bind (calls_ask rfl) fun token => ?_
  cases truthy token with
  | none => exact calls_ret _
  | some secret => exact Calls.guard fun _ => calls_ret _

theorem quiet_assertKnownApplivertyDevice :
    (assertKnownApplivertyDevice slug serial).Calls fun c => MtlsCall.quiet c = true := by
  refine Calls.bind (calls_ask rfl) fun bearer => ?_
  cases truthy bearer with
  | none => exact calls_ret _
  | some bearer =>
    exact Calls.bind (calls_ask rfl) fun serials =>
      Calls.guard fun _ => calls_ret _

theorem meets_assertNotAlreadyActive
    (es : List MtlsEvent) :
    (assertNotAlreadyActive slug serial).Meets (World.log _ _) (Grounded task) es
      (post (fun _ es' => ⟨.findActiveCertificate slug serial, .ok none⟩ ∈ es')
        fun _ _ => True) := by
  refine ⟨trivial, fun r _ => ?_⟩
  match r with
  | .error e => trivial
  | .ok (some id) => trivial
  | .ok none => exact mem_append_right es mem_cons_self

theorem meets_registerDevice (slug : String) (params : CsrPayload)
    (bootstrapToken : Option String) :
    (registerDevice slug params bootstrapToken).Meets (World.log _ _) (Grounded task) []
      fun _ _ => True := by
  refine Meets.bind (R := fun _ _ => True)
    ((meets_quiet (quiet_verifyGlobalBootstrapToken _ _) []).mono fun r _ _ => by
      cases r <;> trivial) fun _ es _ => ?_
  refine Meets.bind (meets_assertNotAlreadyActive _ _ es) fun _ es hclear => ?_
  refine Meets.bind (R := fun _ es' => es <+: es')
    ((meets_quiet (quiet_assertKnownApplivertyDevice _ _) es).mono fun r _ hpre => by
      cases r
      · trivial
      · exact hpre) fun _ es' hpre => ?_
  refine Meets.bind (R := fun _ _ => True)
    ((meets_issueLeaf (hpre.subset hclear) (.inl rfl) params.csrPem).mono fun r _ _ => by
      cases r <;> trivial) fun _ es'' _ => ?_
  exact (meets_quiet (Calls.bind (calls_ask rfl) fun _ => calls_ret _) es'').mono
    fun _ _ _ => trivial

theorem meets_renewDevice {cert : ClientCertificate} {header : Option String} {params : CsrPayload}
    {cn id : String} (hfound : ⟨.findActiveCertificate (workspaceOf header) cn, .ok (some id)⟩ ∈ es) :
    (renewDevice (workspaceOf header) params cn).Meets (World.log _ _)
      (Grounded (.renew cert header params)) es fun _ _ => True := by
  unfold renewDevice
  split_ifs with hserial
  · trivial
  · obtain rfl := not_not.mp hserial
    refine Meets.bind (R := fun _ es' =>
        ⟨.supersedeCertificates (workspaceOf header) params.serialNumber, .ok ()⟩ ∈ es')
      ⟨⟨cert, header, params, id, rfl, hfound⟩, fun r _ => ?_⟩ fun _ es' hclear => ?_
    · match r with
      | .error e => trivial
      | .ok () => exact mem_append_right es mem_cons_self
    · refine Meets.bind (R := fun _ _ => True)
        ((meets_issueLeaf hclear (.inr rfl) params.csrPem).mono fun r _ _ => by
          cases r <;> trivial) fun _ es'' _ => ?_
      exact (meets_quiet (Calls.bind (calls_ask rfl) fun _ => calls_ret _) es'').mono
        fun _ _ _ => trivial

theorem meets_identity (secret : String) (req : IdentityHeaders) :
    (assertMtlsIdentity secret req).Meets (World.log _ _) (Grounded task) []
      (post (fun cn es => ∃ id,
        ⟨.findActiveCertificate (workspaceOf req.workspaceSlug) cn, .ok (some id)⟩ ∈ es)
        fun _ _ => True) := by
  rcases assertMtlsIdentity_cases secret req with ⟨e, herror⟩ | ⟨rawCn, -, hlookup⟩
  · rw [herror]
    trivial
  · rw [hlookup]
    refine ⟨trivial, fun r _ => ?_⟩
    match r with
    | .error e => trivial
    | .ok none => trivial
    | .ok (some id) =>
      refine ⟨trivial, fun r _ => ?_⟩
      cases r <;> exact ⟨id, mem_append_left _ (mem_append_right _ mem_cons_self)⟩

theorem quiet_assertNotAlreadyActive :
    (assertNotAlreadyActive slug serial).Calls fun c => MtlsCall.quiet c = true := by
  refine Calls.bind (calls_ask rfl) fun found => ?_
  cases found <;> exact calls_ret _

theorem quiet_revokeCertificate (slug id reason : String) :
    (revokeCertificate slug id reason).Calls fun c => MtlsCall.quiet c = true := by
  refine Calls.bind (calls_ask rfl) fun found => ?_
  cases found with
  | none => exact calls_ret _
  | some row =>
    refine Calls.guard fun _ => Calls.ite
      (fun _ => calls_ret _) fun _ => ?_
    exact Calls.bind (calls_ask rfl) fun _ => calls_ask rfl

theorem quiet_purgeRevokedCertificates (slug : String) (days : ℕ) :
    (purgeRevokedCertificates slug days).Calls fun c => MtlsCall.quiet c = true :=
  Calls.bind (calls_ask rfl) fun _ => Calls.ite (fun _ => calls_ask rfl)
    fun _ => calls_ret _

theorem meets_task (secret : String) (task : MtlsTask) :
    (task.body secret).Meets (World.log _ _) (Grounded task) [] fun _ _ => True := by
  cases task with
  | register workspaceSlug params bootstrapToken =>
    exact Meets.bind (R := fun _ _ => True)
      ((meets_registerDevice workspaceSlug params bootstrapToken).mono fun r _ _ => by
        cases r <;> trivial) fun _ _ _ => trivial
  | renew cert header params =>
    refine Meets.bind (R := fun _ _ => True) ?_ fun _ _ _ => trivial
    refine Meets.bind (meets_identity secret (cert.headers secret header)) fun cn es hfound => ?_
    obtain ⟨id, hfound⟩ := hfound
    exact (meets_renewDevice hfound).mono fun r _ _ => by cases r <;> trivial
  | authenticate cert header =>
    exact (meets_quiet (Calls.bind (quiet_identity _ _) fun _ => calls_ret _) []).mono
      fun _ _ _ => trivial
  | revoke workspaceSlug id reason =>
    exact (meets_quiet (quiet_revokeCertificate _ _ _) []).mono fun _ _ _ => trivial
  | purge workspaceSlug days =>
    exact (meets_quiet (quiet_purgeRevokedCertificates _ _) []).mono fun _ _ _ => trivial

end Grounded

/-! ## Every run -/

section Runs

variable {secret : String} {s : CertStore} {ts : List MtlsTask} {tr pre post : List MtlsLabel}
  {cfg : Config mtlsSig ServiceError CertStore MtlsTask} {l : MtlsLabel} {e : MtlsEvent}
  {cond : List MtlsLabel → CertStore → MtlsLabel → Prop}
  {workspaceSlug serialNumber : String} {row : DeviceCertificate}

/-- **Step lemma**: a certificate that is active after an event was so before,
or has been inserted by it. -/
theorem active_next
    (h : row ∈ (s.next e.call e.answer).activeRows workspaceSlug serialNumber) :
    row ∈ s.activeRows workspaceSlug serialNumber ∨
      ∃ record thumbprintHex, e = ⟨.createCertificate record thumbprintHex, .ok row.id⟩ ∧
        row.toCertificateRecord = record := by
  by_cases hinserts : Inserts workspaceSlug serialNumber e
  · obtain ⟨record, thumbprintHex, id, rfl, -⟩ := hinserts
    obtain ⟨hmem, hof, hactive⟩ := mem_activeRows.mp h
    rcases mem_append.mp hmem with hmem | hnew
    · exact .inl (mem_activeRows.mpr ⟨hmem, hof, active_of_later (now_next s _) hactive⟩)
    · obtain rfl := mem_singleton.mp hnew
      exact .inr ⟨record, thumbprintHex, rfl, rfl⟩
  · exact .inl ((activeRows_next s hinserts).subset h)

/-- A certificate that is active after a trace was so before, or has been
inserted in between. -/
theorem active_after (s : CertStore) (tr : List MtlsLabel)
    (h : row ∈ (storeAfter s tr).activeRows workspaceSlug serialNumber) :
    row ∈ s.activeRows workspaceSlug serialNumber ∨ row.id ∈ issued tr := by
  induction tr generalizing s with
  | nil => exact .inl h
  | cons l tr ih =>
    rcases ih _ h with hbefore | hissued
    · refine (active_next hbefore).imp_right fun ⟨record, thumbprintHex, hevent, _⟩ => ?_
      exact mem_filterMap.mpr ⟨l, mem_cons_self, by rw [hevent]⟩
    · refine .inr ?_
      obtain ⟨m, hm, hid⟩ := mem_filterMap.mp hissued
      exact mem_filterMap.mpr ⟨m, mem_cons_of_mem l hm, hid⟩

theorem activeRows_of_clears (hclears : Clears workspaceSlug serialNumber e)
    (hmay : s.may e.call e.answer) :
    (s.next e.call e.answer).activeRows workspaceSlug serialNumber = [] := by
  rcases hclears with rfl | rfl
  · refine sublist_nil.mp ?_
    rw [← (hmay : s.activeRows workspaceSlug serialNumber = [])]
    exact activeRows_next s fun ⟨_, _, _, hevent, _⟩ => by cases hevent
  · exact activeRows_supersede s workspaceSlug serialNumber

/-- One step keeps at most one active certificate where an insertion finds
none. -/
theorem oneActive_next (hone : s.OneActive)
    (hclear : ∀ workspaceSlug serialNumber, Inserts workspaceSlug serialNumber e →
      s.activeRows workspaceSlug serialNumber = []) : (s.next e.call e.answer).OneActive := by
  intro workspaceSlug serialNumber
  by_cases hinserts : Inserts workspaceSlug serialNumber e
  · have hle := activeRows_insert s e workspaceSlug serialNumber
    rw [hclear _ _ hinserts] at hle
    exact hle
  · exact (activeRows_next s hinserts).length_le.trans (hone _ _)

/-- Every call of a run is grounded in what its thread did before. -/
theorem grounded_of_run
    (h : Run (mtlsSystem secret) cond ((mtlsSystem secret).launch s ts) tr cfg)
    (hl : l ∈ tr) : Grounded l.task l.past l.event.call :=
  h.ok_of_meets Grounded (meets_task secret) l hl

/-- What a thread did before a label is in the trace before that label. -/
theorem exists_of_mem_past
    (h : Run (mtlsSystem secret) cond ((mtlsSystem secret).launch s ts) tr cfg)
    (htr : tr = pre ++ l :: post) (he : e ∈ l.past) :
    ∃ before c mid, pre = before ++ c :: mid ∧ c.thread = l.thread ∧ c.event = e ∧
      (storeAfter s before).may e.call e.answer := by
  rw [h.past_eq htr, mem_ownEvents] at he
  obtain ⟨c, hc, hthread, rfl⟩ := he
  obtain ⟨before, mid, rfl⟩ := append_of_mem hc
  have htr' : tr = before ++ c :: (mid ++ l :: post) := by simp [htr]
  exact ⟨before, c, mid, rfl, hthread, rfl, may_of_run h htr'⟩

/-- Where nothing is inserted behind a request's back, it inserts only for a
device without an active certificate. -/
theorem clear_of_insert
    (h : Run (mtlsSystem secret) (overlapFree s) ((mtlsSystem secret).launch s ts) tr cfg)
    (htr : tr = pre ++ l :: post) (hinserts : Inserts workspaceSlug serialNumber l.event) :
    (storeAfter s pre).activeRows workspaceSlug serialNumber = [] := by
  obtain ⟨cfg₁, cfg₂, hrun, hstep, hcond, -⟩ := h.step_of_append htr
  rw [store_of_run hrun] at hcond
  have hgrounded := grounded_of_run h (l := l) (by simp [htr])
  obtain ⟨record, thumbprintHex, id, hevent, rfl, rfl⟩ := hinserts
  have hcall : l.event.call = .createCertificate record thumbprintHex := by rw [hevent]
  rw [hcall] at hgrounded
  unfold overlapFree at hcond
  rw [hcall] at hcond
  obtain ⟨e, he, hclears⟩ := hgrounded
  obtain ⟨before, c, mid, rfl, hthread, rfl, hmay⟩ := exists_of_mem_past h htr he
  refine eq_nil_iff_forall_not_mem.mpr fun row hrow => ?_
  refine hcond row hrow before c mid rfl hthread hclears ?_
  rw [storeAfter_append] at hrow
  refine (active_after ((storeAfter s before).next c.event.call c.event.answer) mid
    hrow).resolve_left fun hactive => ?_
  rw [activeRows_of_clears hclears hmay] at hactive
  cases hactive

/-- **Run lemma**: there is never more than one. -/
theorem alwaysOneActive (hone : s.OneActive)
    (h : Run (mtlsSystem secret) (overlapFree s) ((mtlsSystem secret).launch s ts) tr cfg) :
    AlwaysOneActive s tr := by
  induction h with
  | nil =>
    intro pre post htr
    obtain ⟨rfl, -⟩ := append_eq_nil_iff.mp htr.symm
    exact hone
  | @snoc tr cfg cfg' l hrun hstep hcond ih =>
    intro pre post htr
    rcases eq_nil_or_concat post with rfl | ⟨post', x, rfl⟩
    · rw [append_nil] at htr
      subst htr
      rw [storeAfter_append]
      exact oneActive_next (ih tr [] (by simp)) fun _ _ hinserts =>
        clear_of_insert (hrun.snoc hstep hcond) rfl hinserts
    · have htr' : tr ++ [l] = (pre ++ post') ++ [x] := by simpa using htr
      exact ih pre post' (append_inj' htr' rfl).1

/-- **Main theorem**: while nothing is issued behind a request's back, a device
never has two active certificates, and only a renewal with the one that it
has supersedes it. -/
theorem oneActive_of_overlapFree (hone : s.OneActive)
    (h : Run (mtlsSystem secret) (overlapFree s) ((mtlsSystem secret).launch s ts) tr cfg) :
    AlwaysOneActive s tr ∧ HolderReplaces s tr := by
  have halways := alwaysOneActive hone h
  refine ⟨halways, fun pre l post workspaceSlug serialNumber row htr hevent hrow => ?_⟩
  obtain ⟨cfg₁, cfg₂, hrun, hstep, hcond, -⟩ := h.step_of_append htr
  rw [store_of_run hrun] at hcond
  have hgrounded := grounded_of_run h (l := l) (by simp [htr])
  have hcall : l.event.call = .supersedeCertificates workspaceSlug serialNumber := by rw [hevent]
  rw [hcall] at hgrounded
  unfold overlapFree at hcond
  rw [hcall] at hcond
  obtain ⟨cert, header, params, id, htask, hfound⟩ := hgrounded
  obtain ⟨before, c, mid, rfl, hthread, hfind, -⟩ := exists_of_mem_past h htr hfound
  have hlookup : c.event.call = .findActiveCertificate workspaceSlug serialNumber := by rw [hfind]
  obtain ⟨hnew, current, hcurrent, hpem⟩ := hcond row hrow before c mid cert header rfl hthread
    (by rw [htask]; rfl) hlookup
  refine ⟨cert, header, params, htask, ?_⟩
  -- the row was already there at the lookup, where there was only one
  rw [storeAfter_append] at hrow
  have hafter := (active_after ((storeAfter s before).next c.event.call c.event.answer) mid
    hrow).resolve_right hnew
  have hbefore : row ∈ (storeAfter s before).activeRows workspaceSlug serialNumber := by
    refine (active_next hafter).resolve_right fun ⟨record, thumbprintHex, hinsert, _⟩ => ?_
    rw [hfind] at hinsert
    cases hinsert
  have hle := halways before (c :: (mid ++ l :: post)) (by simp [htr]) workspaceSlug serialNumber
  obtain ⟨only, honly⟩ := length_eq_one_iff.mp
    (Nat.le_antisymm hle (length_pos_of_mem hbefore))
  rw [honly, mem_singleton] at hbefore hcurrent
  rw [← hpem, hbefore, hcurrent]

end Runs

/-! ## Two registrations of one device -/

/-- A check of `overlapFree`. -/
def overlapFreeCheck (s₀ : CertStore) (tr : List MtlsLabel) (s : CertStore) (l : MtlsLabel) :
    Bool :=
  match l.event.call with
  | .createCertificate record _ => (s.activeRows record.workspaceSlug record.serialNumber).isEmpty
  | .supersedeCertificates workspaceSlug serialNumber =>
    (s.activeRows workspaceSlug serialNumber).all fun row => everyCut (fun pre c mid =>
      l.task.presents.all fun (cert, _) =>
        c.thread ≠ l.thread ||
          c.event.call ≠ .findActiveCertificate workspaceSlug serialNumber ||
          row.id ∉ issued mid &&
            decide ((storeAfter s₀ pre).IsActive workspaceSlug serialNumber cert)) tr
  | _ => true

theorem overlapFreeCheck_sound (s₀ : CertStore) (tr : List MtlsLabel) (s : CertStore)
    (l : MtlsLabel) (h : overlapFreeCheck s₀ tr s l = true) : overlapFree s₀ tr s l := by
  unfold overlapFreeCheck at h
  unfold overlapFree
  split
  · next record thumbprintHex hcall =>
    rw [hcall] at h
    intro row hrow
    rw [List.isEmpty_iff.mp h] at hrow
    cases hrow
  · next workspaceSlug serialNumber hcall =>
    rw [hcall] at h
    rintro row hrow pre c mid cert header rfl hthread hpresents hlookup
    have hcut := everyCut_sound (all_eq_true.mp h row hrow)
    simpa [hthread, hpresents, hlookup] using hcut
  · trivial

theorem emptyTable_oneActive : emptyTable.OneActive := fun _ _ => Nat.zero_le 1

/-- From an empty table there is one, before the renewal and after it. -/
theorem oneActive_renewed : (emptyTable.OneActive ∧ renewedTrace.length = 25) ∧
    AlwaysOneActive emptyTable renewedTrace ∧ HolderReplaces emptyTable renewedTrace := by
  have hadmits := Config.admits_of_admitted (mtlsSystem "proxy") CertStore.answer
    (overlapFreeCheck_sound emptyTable)
    (replicate 12 0 ++ replicate 11 1 ++ replicate 2 2) [] renewed
    (by decide +kernel)
  exact ⟨⟨emptyTable_oneActive, by decide +kernel⟩, oneActive_of_overlapFree emptyTable_oneActive
    (Run.nil.play (mtlsSystem "proxy") CertStore.answer may_answer _ hadmits)⟩

/-- The device registers twice at the same time. -/
def twice : Config mtlsSig ServiceError CertStore MtlsTask :=
  (mtlsSystem "proxy").launch emptyTable [registration,
    .register "acme" ⟨"csr 2", "SN1"⟩ (some "token")]

/-- Both registrations ask for an active certificate before one is inserted. -/
def twiceSchedule : List ℕ :=
  List.replicate 2 0 ++ List.replicate 2 1 ++ List.replicate 10 0 ++ List.replicate 10 1

/-- Both of them insert one. -/
theorem two_registrations :
    ¬∀ (secret : String) (s : CertStore) (ts : List MtlsTask) (tr : List MtlsLabel)
      (cfg : Config mtlsSig ServiceError CertStore MtlsTask), s.OneActive →
      Run (mtlsSystem secret) always ((mtlsSystem secret).launch s ts) tr cfg →
      AlwaysOneActive s tr ∧ HolderReplaces s tr := by
  intro hall
  have hone := (hall _ _ _ _ _ emptyTable_oneActive (Config.run_play (mtlsSystem "proxy")
    CertStore.answer may_answer twiceSchedule twice)).1 _ [] (append_nil _).symm "acme" "SN1"
  exact absurd hone (by decide +kernel)

end AppliverySoar.Mtls
