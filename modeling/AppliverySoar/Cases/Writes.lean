import AppliverySoar.Cases.Store

/-!
# What the functions write of a case

Most calls of the module read, or write of a case what has nothing to do with its
status and its clocks. One lemma for each function says so; what `updateCase`,
`upsertCaseForViolation` and the SLA job write beside it is left to the modules
that need it.

Results:
* `calls_dispatchAndAttachCaseEvent`, `calls_autoEnrichCaseFromText` and the
  others: what a function calls.
-/

namespace AppliverySoar.Cases

open Async Prog Access Automations Compliance CaseCall
  AppliverySoar.Workflows

/-! ## Data -/

/-- The severity, the acknowledgement, the clock and the breach stamps are left. -/
structure CaseData.KeepsClocks (data : CaseData) : Prop where
  severity : data.severity = none
  acknowledgedAt : data.acknowledgedAt = none
  slaClockStartedAt : data.slaClockStartedAt = none
  slaAckBreachNotifiedAt : data.slaAckBreachNotifiedAt = none
  slaResolveBreachNotifiedAt : data.slaResolveBreachNotifiedAt = none

/-- The status is left, and with it when the case was closed. -/
structure CaseData.KeepsStatus (data : CaseData) : Prop where
  status : data.status = none
  closedAt : data.closedAt = none

/-- The case is resolved. -/
def CaseData.Resolves (data : CaseData) : Prop :=
  data.status = some .resolved ∧ ∃ time, data.closedAt = some (some time)

/-- Nothing is written but notes, references, threat intel and runs. -/
def CaseCall.Aside : CaseCall → Prop
  | .createCase _ => False
  | .updateCase _ data => data.KeepsClocks ∧ data.KeepsStatus
  | _ => True

/-- Cases are created and resolved, and their clocks left. -/
def CaseCall.Routine : CaseCall → Prop
  | .updateCase _ data => data.KeepsClocks ∧ (data.KeepsStatus ∨ data.Resolves)
  | _ => True

variable {c : CaseCall}

theorem CaseCall.Aside.routine (h : c.Aside) : c.Routine := by
  cases c with
  | updateCase id data => exact ⟨h.1, .inl h.2⟩
  | _ => trivial

theorem CaseCall.aside_of_reads (h : c.reads = true) : c.Aside := by
  cases c with
  | createCase data => cases h
  | updateCase id data => cases h
  | _ => trivial

theorem keepsClocks_default : CaseData.KeepsClocks {} :=
  ⟨rfl, rfl, rfl, rfl, rfl⟩

theorem keepsStatus_default : CaseData.KeepsStatus {} :=
  ⟨rfl, rfl⟩

/-! ## Reads -/

/-- The open cases that a job has read last. -/
def LastRead (past : List CaseMove) (rows : List Case) : Prop :=
  ∃ slug pre rest, past = pre ++ ⟨.findOpenCases slug, .ok rows⟩ :: rest ∧
    ∀ e ∈ rest, ∀ slug, e.call ≠ .findOpenCases slug

/-! ## Integrations -/

/-- The call only reads. -/
def CaseCall.Reads (c : CaseCall) : Prop :=
  c.reads = true

theorem calls_read (h : c.reads = true) : (ask c).Calls Reads :=
  calls_ask h

variable {α : Type} (slug caseId : String) (rt : TextRuntime) (slug : String) (kase : Case)
  (eventType : CaseEvent) (integ : Integration)

theorem calls_reads {p : CaseProg α} (h : p.Calls Reads) : p.Calls CaseCall.Aside :=
  h.widen fun _ => aside_of_reads

theorem calls_noteSent (sent : Except ServiceError Unit) :
    (noteSent integ sent).Calls Reads := by
  cases sent with
  | error e => exact calls_read (by rfl)
  | ok u => exact (calls_read (by rfl)).tryCatch fun _ => calls_read (by rfl)

theorem calls_closeSync :
    (closeSync kase integ).Calls Reads := by
  unfold closeSync
  split
  · exact calls_ret _
  · refine Calls.guard fun _ => ?_
    dsimp only
    split
    · exact calls_noteSent _ _
    · exact (Calls.attempt (calls_read (by rfl))).bind fun _ => calls_noteSent _ _

theorem calls_sendEvent :
    (sendEvent kase eventType integ).Calls Reads := by
  unfold sendEvent
  split <;> first | exact calls_read (by rfl) | exact calls_ret _

theorem calls_dispatchTo (newRefs : List ExternalRef)
    (integ : Integration) : (dispatchTo kase eventType newRefs integ).Calls Reads := by
  unfold dispatchTo
  refine Calls.guard fun _ => ?_
  refine Calls.ite (fun _ => (calls_closeSync kase integ).bind fun _ => calls_ret _)
    fun _ => ?_
  refine Calls.guard fun _ => ?_
  refine Calls.guard fun _ => ?_
  refine Calls.ite (fun _ => ?_) fun _ => ?_
  · refine (Calls.attempt (calls_read (by rfl))).bind fun created => ?_
    cases created with
    | error e => exact (calls_noteSent _ _).bind fun _ => calls_ret _
    | ok ref => exact (calls_noteSent _ _).bind fun _ => calls_ret _
  · refine (Calls.attempt (calls_sendEvent kase eventType integ)).bind fun sent => ?_
    exact (calls_noteSent _ _).bind fun _ => calls_ret _

theorem calls_dispatchCaseIntegrations : (dispatchCaseIntegrations slug kase eventType).Calls Reads :=
  (calls_read (by rfl)).bind fun _ => Calls.foldlM fun newRefs integ _ =>
    calls_dispatchTo kase eventType newRefs integ

theorem calls_sendBreach (kind : BreachKind) (integ : Integration) :
    (sendBreach kase kind integ).Calls Reads := by
  unfold sendBreach
  dsimp only
  split <;> exact calls_read (by rfl)

theorem calls_dispatchCaseSlaBreach (kind : BreachKind) :
    (dispatchCaseSlaBreach slug kase kind).Calls Reads := by
  refine (calls_read (by rfl)).bind fun _ => ?_
  refine (Calls.foldlM fun _ integ _ => ?_).bind fun _ => calls_read (by rfl)
  unfold breachTo
  refine Calls.guard fun _ => ?_
  refine Calls.guard fun _ => ?_
  refine Calls.guard fun _ => ?_
  exact (Calls.attempt (calls_sendBreach kase kind integ)).bind fun _ => calls_noteSent _ _

/-! ## Tickets and threat intel -/

theorem calls_syncCaseTicketRefs (refs : List ExternalRef) (types : List IntegrationType) :
    (syncCaseTicketRefs refs types).Calls Reads := by
  refine Calls.foldlM fun acc ref _ => ?_
  unfold syncRef
  refine Calls.guard fun _ => ?_
  split
  · exact calls_ret _
  · refine (Calls.attempt (calls_read (by rfl))).bind fun fetched => ?_
    cases fetched with
    | error e => exact calls_ret _
    | ok status => exact (calls_read (by rfl)).bind fun _ => calls_ret _

theorem calls_getCaseOrThrow (caseId : String) : (getCaseOrThrow caseId).Calls Reads :=
  (calls_read (by rfl)).bind fun found => by cases found <;> exact calls_ret _

theorem calls_showCase : (showCase slug caseId).Calls Reads := by
  refine Calls.bind ((calls_read (by rfl)).bind fun _ => calls_ret _) fun settings => ?_
  refine (calls_getCaseOrThrow caseId).bind fun final => ?_
  refine (calls_read (by rfl)).bind fun now => ?_
  split <;> exact calls_ret _

theorem calls_attachExternalRefs (caseId : String) (refs : List ExternalRef) :
    (attachExternalRefs caseId refs).Calls CaseCall.Aside := by
  refine (calls_ask trivial).bind fun found => ?_
  cases found with
  | none => exact calls_ret _
  | some kase =>
    refine (calls_ask ⟨⟨rfl, rfl, rfl, rfl, rfl⟩, rfl, rfl⟩).bind fun _ => ?_
    exact Calls.foldlM fun _ _ _ => calls_ask trivial

theorem calls_dispatchAndAttachCaseEvent :
    (dispatchAndAttachCaseEvent slug caseId eventType).Calls CaseCall.Aside := by
  refine (calls_ask trivial).bind fun found => ?_
  cases found with
  | none => exact calls_ret _
  | some kase =>
    refine (calls_reads (calls_dispatchCaseIntegrations _ _ _)).bind fun refs => ?_
    exact Calls.guard fun _ => calls_attachExternalRefs caseId refs

theorem calls_enrichCandidate (slug caseId : String)
    (acc : List String × List ThreatIntelResult) (iocValue : String) :
    (enrichCandidate rt slug caseId acc iocValue).Calls Reads := by
  unfold enrichCandidate
  refine Calls.guard fun _ => ?_
  refine (Calls.attempt (calls_read (by rfl))).bind fun looked => ?_
  cases looked with
  | error e => exact calls_ret _
  | ok results =>
    exact Calls.guard fun _ =>
      (calls_read (by rfl)).bind fun _ => calls_ret _

theorem calls_autoEnrichCaseFromText (slug caseId : String)
    (text : Option String) : (autoEnrichCaseFromText rt slug caseId text).Calls CaseCall.Aside := by
  unfold autoEnrichCaseFromText
  dsimp only
  refine Calls.guard fun _ => ?_
  refine (calls_ask trivial).bind fun providerCount => ?_
  refine Calls.guard fun _ => ?_
  refine (calls_ask trivial).bind fun found => ?_
  cases found with
  | none => exact calls_ret _
  | some kase =>
    refine Calls.bind (Calls.foldlM fun acc iocValue _ =>
      calls_reads (calls_enrichCandidate rt slug caseId acc iocValue)) fun acc => ?_
    exact Calls.guard fun _ =>
      calls_ask ⟨⟨rfl, rfl, rfl, rfl, rfl⟩, rfl, rfl⟩

theorem calls_enrichCase (slug caseId value : String)
    (forceRefresh : Bool) :
    (enrichCase rt slug caseId value forceRefresh).Calls CaseCall.Aside := by
  unfold enrichCase
  split
  · exact calls_ret _
  · refine (calls_ask trivial).bind fun found => ?_
    cases found with
    | none => exact calls_ret _
    | some kase =>
      refine (calls_ask trivial).bind fun providerCount => ?_
      refine Calls.guard fun _ => ?_
      dsimp only
      split
      · exact calls_ret _
      · refine (calls_ask trivial).bind fun results => ?_
        refine (calls_ask ⟨⟨rfl, rfl, rfl, rfl, rfl⟩, rfl, rfl⟩).bind fun _ => ?_
        exact (calls_ask trivial).bind fun _ => calls_reads (calls_getCaseOrThrow caseId)

/-! ## Cases -/

theorem calls_autorunCase (auth : Option String) :
    (autorunCase slug caseId auth).Calls CaseCall.Aside := by
  unfold autorunCase
  split
  · exact calls_ret _
  · refine Calls.tryCatch ?_ fun _ => calls_ret _
    refine (calls_reads (calls_getCaseOrThrow caseId)).bind fun kase => ?_
    refine (calls_ask trivial).bind fun found => ?_
    cases found with
    | none => exact calls_ret _
    | some runId =>
      exact (calls_ask ⟨⟨rfl, rfl, rfl, rfl, rfl⟩, rfl, rfl⟩).bind fun _ => calls_ask trivial

theorem calls_createCase (payload : CaseCreatePayload)
    (auth : Option String) : (createCase rt slug payload auth).Calls Routine := by
  have hrest : ∀ {α : Type} {p : CaseProg α}, p.Calls CaseCall.Aside → p.Calls Routine :=
    fun h => h.widen fun _ => CaseCall.Aside.routine
  unfold createCase
  refine Calls.guard fun _ => ?_
  refine (calls_ask trivial).bind fun created => ?_
  refine (calls_ask trivial).bind fun _ => ?_
  refine Calls.bind ?_ fun _ => ?_
  · unfold createFirstNote
    split
    · exact calls_ret _
    · exact calls_ask trivial
  refine (calls_ask trivial).bind fun _ => ?_
  refine (hrest (calls_dispatchAndAttachCaseEvent _ _ _)).bind fun _ => ?_
  refine (hrest (calls_autoEnrichCaseFromText rt _ _ _)).bind fun _ => ?_
  refine (hrest (calls_autorunCase _ _ _)).bind fun _ => ?_
  exact hrest (calls_reads (calls_showCase _ _))

theorem calls_forSome {okc : CaseCall → Prop} {p : α → CaseProg Unit}
    (h : ∀ a, (p a).Calls okc) (value : Option α) : (forSome value p).Calls okc := by
  cases value with
  | none => exact calls_ret _
  | some a => exact h a

theorem calls_checkEdits (payload : CaseUpdatePayload) :
    (checkEdits rt kase payload).Calls Reads := by
  refine Calls.bind (calls_forSome (fun severity => ?_) _) fun _ => ?_
  · exact Calls.guard fun _ => calls_read (by rfl)
  refine Calls.bind (calls_forSome (fun _ => calls_read (by rfl)) _) fun _ => ?_
  refine Calls.bind (calls_forSome (fun _ => calls_read (by rfl)) _) fun _ => ?_
  refine calls_forSome (fun status => ?_) _
  split
  · exact calls_ret _
  · exact calls_read (by rfl)

theorem calls_removeMarkers (event : CaseEvent)
    (auth : Option String) : (removeMarkers slug kase event auth).Calls Reads := by
  unfold removeMarkers
  split
  · exact (calls_read (by rfl)).tryCatch fun _ => calls_ret _
  · exact calls_ret _

theorem calls_retryCaseIntegrations :
    (retryCaseIntegrations slug caseId).Calls CaseCall.Aside := by
  refine (calls_ask trivial).bind fun found => ?_
  cases found with
  | none => exact calls_ret _
  | some kase =>
    refine (calls_dispatchAndAttachCaseEvent _ _ _).bind fun _ => ?_
    refine (calls_ask ⟨keepsClocks_default, keepsStatus_default⟩).bind fun _ => ?_
    exact (calls_ask trivial).bind fun _ => calls_reads (calls_getCaseOrThrow caseId)

theorem calls_addCaseNote (slug caseId text : String) :
    (addCaseNote rt slug caseId text).Calls CaseCall.Aside := by
  unfold addCaseNote
  split
  · exact calls_ret _
  · refine (calls_ask trivial).bind fun found => ?_
    cases found with
    | none => exact calls_ret _
    | some kase =>
      refine (calls_ask trivial).bind fun _ => (calls_ask trivial).bind fun _ => ?_
      refine (calls_ask ⟨keepsClocks_default, keepsStatus_default⟩).bind fun _ => ?_
      exact (calls_autoEnrichCaseFromText rt _ _ _).bind fun _ =>
        calls_reads (calls_getCaseOrThrow caseId)

theorem calls_settleSync (caseId : String) (kaseNow : Case) (integrations : List Integration)
    (synced : List ExternalRef × List ExternalRef) :
    (settleSync caseId kaseNow integrations synced).Calls Routine := by
  unfold settleSync
  split
  · exact (calls_ask ⟨⟨rfl, rfl, rfl, rfl, rfl⟩, .inl ⟨rfl, rfl⟩⟩).bind fun _ => calls_ret _
  · refine Calls.ite (fun _ => ?_) fun _ => ?_
    · refine (calls_ask trivial).bind fun now => ?_
      refine (calls_ask ⟨⟨rfl, rfl, rfl, rfl, rfl⟩, .inr ⟨rfl, now, rfl⟩⟩).bind fun _ => ?_
      exact (calls_ask trivial).bind fun _ => calls_ret _
    · refine (calls_ask ⟨⟨rfl, rfl, rfl, rfl, rfl⟩, .inl ⟨rfl, rfl⟩⟩).bind fun _ => ?_
      exact (calls_ask trivial).bind fun _ => calls_ret _

theorem calls_routine_of_reads {p : CaseProg α} (h : p.Calls Reads) : p.Calls Routine :=
  (calls_reads h).widen fun _ => CaseCall.Aside.routine

theorem calls_syncCaseTicketStatus :
    (syncCaseTicketStatus slug caseId).Calls Routine := by
  refine (calls_ask trivial).bind fun found => ?_
  cases found with
  | none => exact calls_ret _
  | some kase =>
    refine Calls.guard fun _ => ?_
    refine (calls_ask trivial).bind fun integrations => ?_
    refine (calls_routine_of_reads (calls_syncCaseTicketRefs _ _)).bind fun synced => ?_
    refine (calls_routine_of_reads (calls_getCaseOrThrow caseId)).bind fun kaseNow => ?_
    refine (calls_settleSync caseId kaseNow integrations synced).bind fun autoClosed => ?_
    refine (calls_ask trivial).bind fun _ => ?_
    exact (calls_routine_of_reads (calls_getCaseOrThrow caseId)).bind fun _ => calls_ret _

theorem calls_runTicketStatusSyncTick : runTicketStatusSyncTick.Calls Routine := by
  refine (calls_ask trivial).bind fun workspaces => Calls.foldlM fun _ slug _ => ?_
  refine (calls_ask trivial).bind fun integrations => ?_
  refine Calls.guard fun _ => ?_
  refine (calls_ask trivial).bind fun openCases => Calls.foldlM fun _ kase _ => ?_
  refine Calls.guard fun _ => ?_
  refine Calls.tryCatch ?_ fun _ => calls_ret _
  refine (calls_routine_of_reads (calls_syncCaseTicketRefs _ _)).bind fun synced => ?_
  refine (calls_ask ⟨⟨rfl, rfl, rfl, rfl, rfl⟩, .inl ⟨rfl, rfl⟩⟩).bind fun _ => ?_
  refine calls_forSome (fun ref => Calls.ite (fun _ => ?_) fun _ => calls_ask trivial) _
  refine (calls_ask trivial).bind fun now => ?_
  refine (calls_ask ⟨⟨rfl, rfl, rfl, rfl, rfl⟩, .inr ⟨rfl, now, rfl⟩⟩).bind fun _ => ?_
  exact (calls_ask trivial).bind fun _ => calls_ask trivial

theorem calls_markCaseRecovered (violationId : Option String)
    (autoResolve : Bool) : (markCaseRecovered slug violationId autoResolve).Calls Routine := by
  unfold markCaseRecovered
  split
  · exact calls_ret _
  · refine (calls_ask trivial).bind fun found => ?_
    cases found with
    | none => exact calls_ret _
    | some kase =>
      refine Calls.ite (fun _ => ?_) fun _ => ?_
      · refine (calls_ask trivial).bind fun now => ?_
        refine (calls_ask ⟨⟨rfl, rfl, rfl, rfl, rfl⟩, .inr ⟨rfl, now, rfl⟩⟩).bind fun _ => ?_
        exact (calls_ask trivial).bind fun _ => calls_ret _
      · refine (calls_ask ⟨keepsClocks_default, .inl keepsStatus_default⟩).bind fun _ => ?_
        exact (calls_ask trivial).bind fun _ => calls_ret _

theorem calls_openCaseForTrigger (slug triggerName runId caseSeverity : String)
    (matchedDevice : Option CaseDeviceRef) :
    (openCaseForTrigger slug triggerName runId caseSeverity matchedDevice).Calls
      Routine := by
  refine (calls_ask trivial).bind fun created => (calls_ask trivial).bind fun _ => ?_
  exact ((calls_dispatchAndAttachCaseEvent _ _ _).widen fun _ => CaseCall.Aside.routine).bind
    fun _ => calls_ret _

theorem calls_dispatchNotify (event : Option CaseEvent) :
    (dispatchNotify slug caseId event).Calls CaseCall.Aside :=
  calls_forSome (fun event => (calls_dispatchAndAttachCaseEvent _ _ event).tryCatch fun _ =>
    calls_ret _) event

/-- The call stamps a breach. -/
def CaseCall.Stamps (c : CaseCall) : Prop :=
  ∃ id kind time, c = .updateCase id (stampData kind time)

theorem calls_checkBreach (settings : CaseSlaSettings) (kase : Case)
    (status : CaseSlaStatus) (kind : BreachKind) :
    (checkBreach slug settings kase status kind).Calls fun c : CaseCall =>
      c.Reads ∨ c.Stamps := by
  unfold checkBreach
  refine Calls.ite (fun _ => ?_) fun _ => calls_ret _
  refine (calls_ask (.inl (by rfl))).bind fun time => ?_
  refine (calls_ask (.inr ⟨kase.id, kind, time, rfl⟩)).bind fun _ => ?_
  refine (calls_ask (.inl (by rfl))).bind fun _ => (calls_ask (.inl (by rfl))).bind fun _ => ?_
  exact Calls.ite (fun _ => (calls_dispatchCaseSlaBreach _ _ _).widen fun _ => .inl)
    fun _ => calls_ret _

theorem calls_runCaseSlaMonitorTick :
    runCaseSlaMonitorTick.Calls fun c : CaseCall => c.Reads ∨ c.Stamps := by
  refine (calls_ask (.inl (by rfl))).bind fun workspaces => Calls.foldlM fun _ slug _ => ?_
  refine Calls.bind ((calls_ask (.inl (by rfl))).bind fun _ => calls_ret _)
    fun settings => ?_
  refine Calls.guard fun _ => ?_
  refine (calls_ask (.inl (by rfl))).bind fun openCases => Calls.foldlM fun _ kase _ => ?_
  refine (calls_ask (.inl (by rfl))).bind fun now => ?_
  split
  · exact calls_ret _
  · exact (calls_checkBreach slug _ kase _ _).bind fun _ => calls_checkBreach slug _ kase _ _

end AppliverySoar.Cases
