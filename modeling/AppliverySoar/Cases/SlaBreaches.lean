import AppliverySoar.Cases.Writes

/-!
# Breaches of the SLA clocks

`runCaseSlaMonitorTick` judges the rows that it has read when it came to their
workspace, and stamps each of them when its turn comes, without a look at what
the row has become. Beside it requests restart the clocks of cases, and change
their severities.

Results:
* `meets_runCaseSlaMonitorTick`: what the job writes and sends, told from its own
  calls.
* `notified_once_per_clock`: if every row that is stamped still has the clock, the
  severity and the missing stamp that the job has read, each clock of a case gets
  one notification of each kind, and a stored stamp was made after its deadline.
* `reopened_case_stamped`: a case that is reopened while the job is at another one
  gets the stamp of its old clock.
-/

namespace AppliverySoar.Cases

open Async Prog Access Compliance Workflows List CaseCall

/-! ## What is written of the clocks -/

/-- The clock and the stamps are left. -/
structure CaseData.KeepsStamps (data : CaseData) : Prop where
  slaClockStartedAt : data.slaClockStartedAt = none
  slaAckBreachNotifiedAt : data.slaAckBreachNotifiedAt = none
  slaResolveBreachNotifiedAt : data.slaResolveBreachNotifiedAt = none

/-- The clock is started again and the stamps are cleared. -/
structure CaseData.RestartsClock (data : CaseData) : Prop where
  slaClockStartedAt : data.slaClockStartedAt.isSome
  slaAckBreachNotifiedAt : data.slaAckBreachNotifiedAt = some none
  slaResolveBreachNotifiedAt : data.slaResolveBreachNotifiedAt = some none

/-- No breach is stamped. -/
def CaseCall.Unstamping : CaseCall → Prop
  | .updateCase _ data => data.KeepsStamps ∨ data.RestartsClock
  | _ => True

theorem CaseCall.Routine.unstamping {c : CaseCall} (h : c.Routine) : c.Unstamping := by
  cases c with
  | updateCase id data =>
    exact .inl ⟨h.1.slaClockStartedAt, h.1.slaAckBreachNotifiedAt, h.1.slaResolveBreachNotifiedAt⟩
  | _ => trivial

theorem calls_unstamping {α : Type} {p : CaseProg α} (h : p.Calls Routine) : p.Calls Unstamping :=
  h.widen fun _ => Routine.unstamping

theorem unstamping_of_aside {α : Type} {p : CaseProg α} (h : p.Calls CaseCall.Aside) :
    p.Calls Unstamping :=
  h.widen fun _ hc => hc.routine.unstamping

variable (rt : TextRuntime)

theorem data_stamps (payload : CaseUpdatePayload) (kase : Case) (now : ℕ) :
    (payload.data kase rt now).KeepsStamps ∨ (payload.data kase rt now).RestartsClock := by
  by_cases hreopens : payload.reopens kase = true
  · refine .inr ⟨?_, ?_, ?_⟩ <;> simp [CaseUpdatePayload.data, hreopens]
  · refine .inl ⟨?_, ?_, ?_⟩ <;> simp [CaseUpdatePayload.data, hreopens]

theorem calls_updateCase (slug caseId : String)
    (payload : CaseUpdatePayload) (auth : Option String) :
    (updateCase rt slug caseId payload auth).Calls Unstamping := by
  refine (calls_ask trivial).bind fun found => ?_
  cases found with
  | none => exact calls_ret _
  | some kase =>
    refine (calls_ask trivial).bind fun now => ?_
    refine (calls_unstamping (calls_routine_of_reads (calls_checkEdits rt _ _))).bind fun _ => ?_
    refine (calls_ask (data_stamps rt payload kase now)).bind fun _ => ?_
    refine (calls_ask trivial).bind fun _ => ?_
    refine Calls.bind (calls_forSome (fun event => ?_) _) fun _ =>
      calls_unstamping (calls_routine_of_reads (calls_showCase _ _))
    exact (unstamping_of_aside (calls_dispatchAndAttachCaseEvent _ _ _)).bind fun _ =>
      calls_unstamping (calls_routine_of_reads (calls_removeMarkers _ _ _ _))

theorem calls_bulkUpdateCases (slug : String)
    (payload : CaseBulkUpdatePayload) (auth : Option String) :
    (bulkUpdateCases rt slug payload auth).Calls Unstamping := by
  unfold bulkUpdateCases
  refine Calls.guard fun _ => Calls.foldlM fun acc caseId _ => ?_
  refine (Calls.attempt (calls_updateCase rt _ _ _ _)).bind fun result => ?_
  cases result with
  | ok shown => exact calls_ret _
  | error e => cases e <;> exact calls_ret _

theorem calls_upsertCaseForViolation (slug : String) (policy : CasePolicyRef)
    (device : CaseDeviceRef) (violationId : String) :
    (upsertCaseForViolation slug policy device violationId).Calls Unstamping := by
  refine (calls_ask trivial).bind fun now => (calls_ask trivial).bind fun existing => ?_
  cases existing with
  | some existing =>
    refine (calls_ask (.inl ⟨rfl, rfl, rfl⟩)).bind fun _ => ?_
    exact (calls_ask trivial).bind fun _ => calls_ret _
  | none =>
    refine (calls_ask trivial).bind fun closedMatch => ?_
    cases closedMatch with
    | some closedMatch =>
      refine (calls_ask (.inr ⟨rfl, rfl, rfl⟩)).bind fun _ => ?_
      exact (calls_ask trivial).bind fun _ => calls_ret _
    | none =>
      exact (calls_ask trivial).bind fun _ => (calls_ask trivial).bind fun _ => calls_ret _

theorem calls_body {task : CaseTask} (h : task ≠ .slaTick) :
    (task.body rt).Calls Unstamping := by
  have hvoid : ∀ {α : Type} {p : CaseProg α}, p.Calls Unstamping →
      (do let _ ← p : CaseProg Unit).Calls Unstamping :=
    fun h => h.bind fun _ => calls_ret _
  cases task with
  | create slug payload authorization =>
    exact hvoid (calls_unstamping (calls_createCase rt _ _ _))
  | trigger slug triggerName runId caseSeverity matchedDevice =>
    exact hvoid (calls_unstamping (calls_openCaseForTrigger _ _ _ _ _))
  | update slug caseId payload authorization => exact hvoid (calls_updateCase rt _ _ _ _)
  | bulkUpdate slug payload authorization => exact hvoid (calls_bulkUpdateCases rt _ _ _)
  | violation slug policy device violationId =>
    exact (calls_upsertCaseForViolation _ _ _ _).bind fun opened =>
      unstamping_of_aside (calls_dispatchNotify _ _ _)
  | recovery slug violationId autoResolve =>
    refine (calls_unstamping (calls_markCaseRecovered _ _ _)).bind fun recovered => ?_
    exact calls_forSome (fun kase => unstamping_of_aside (calls_dispatchNotify _ _ _)) recovered
  | syncTickets slug caseId => exact hvoid (calls_unstamping (calls_syncCaseTicketStatus _ _))
  | syncTick => exact calls_unstamping calls_runTicketStatusSyncTick
  | slaTick => exact absurd rfl h
  | retry slug caseId => exact hvoid (unstamping_of_aside (calls_retryCaseIntegrations _ _))
  | addNote slug caseId text =>
    have hnote := unstamping_of_aside (calls_addCaseNote rt slug caseId text)
    rw [CaseTask.body]
    generalize addCaseNote rt slug caseId text = note at hnote ⊢
    exact hvoid hnote
  | enrich slug caseId value forceRefresh =>
    have henrich := unstamping_of_aside (calls_enrichCase rt slug caseId value forceRefresh)
    rw [CaseTask.body]
    generalize enrichCase rt slug caseId value forceRefresh = enrichment at henrich ⊢
    exact hvoid henrich

/-! ## The job -/

/-- The job has read the settings and then the open cases of a workspace. -/
structure Watching (workspaceSlug : String) (found : Option CaseSlaSettings) (rows : List Case)
    (es : List CaseMove) : Prop where
  settings : ⟨.findSlaSettings workspaceSlug, .ok found⟩ ∈ es
  reading : ∃ pre rest, es = pre ++ ⟨.findOpenCases workspaceSlug, .ok rows⟩ :: rest ∧
    ∀ e ∈ rest, ∀ slug, e.call ≠ .findOpenCases slug

/-- The thresholds of a row of settings. -/
def thresholdsOf (found : Option CaseSlaSettings) : List (String × SlaThreshold) :=
  backfillThresholds (found.getD {}).thresholds

/-- A case that has been read is past its deadline and has no stamp. -/
structure Judged (es : List CaseMove) (id : String) (kind : BreachKind) (time : ℕ)
    (workspaceSlug : String) (found : Option CaseSlaSettings) (rows : List Case) (kase : Case) :
    Prop where
  watching : Watching workspaceSlug found rows es
  mem : kase ∈ rows
  id_eq : kase.id = id
  times : ∃ es₁ judged status, es = es₁ ++ [⟨.now, .ok time⟩] ∧ ⟨.now, .ok judged⟩ ∈ es₁ ∧
    caseSlaStatus kase (thresholdsOf found) judged = .ok status ∧ status.breached kind = true
  unstamped : kase.breachNotifiedAt kind = none

/-- The last row that was written is that of a breach; `rest` is what came after. -/
def LastStamp (es : List CaseMove) (id : String) (kind : BreachKind) (rest : List CaseMove) :
    Prop :=
  ∃ pre time, es = pre ++ ⟨.updateCase id (stampData kind time), .ok ()⟩ :: rest ∧
    ∀ e ∈ rest, ∀ id data, e.call ≠ .updateCase id data

/-- The call sends something. -/
def CaseCall.Sends : CaseCall → Prop
  | .sendChatNotification .. | .sendGenericWebhook .. | .sendPagingEvent .. | .sendAlertEmail .. =>
    True
  | _ => False

/-- What is sent, if something is, tells of a breach; no row is written or read. -/
def CaseCall.Tells (id : String) (kind : BreachKind) : CaseCall → Prop
  | .createCase _ | .updateCase .. | .findOpenCases _ | .findIntegrations _ => False
  | .sendChatNotification _ caseId eventType | .sendGenericWebhook _ caseId eventType =>
    caseId = id ∧ eventType = "sla_" ++ kind.text ++ "_breached"
  | .sendPagingEvent _ dedupKey action =>
    dedupKey = "case_sla:" ++ id ++ ":" ++ kind.text ∧ action = .trigger
  | .sendAlertEmail _ caseId breachKind => caseId = id ∧ breachKind = kind.text
  | _ => True

/-- A call of the job: a stamp is that of a case that was judged, and a
notification, begun by reading the integrations, has a stamp of its own. -/
def JobCall (es : List CaseMove) (c : CaseCall) : Prop :=
  match c with
  | .createCase _ => False
  | .updateCase id data => ∃ kind time, data = stampData kind time ∧
    ∃ slug found rows kase, Judged es id kind time slug found rows kase
  | .findIntegrations _ => ∃ id kind rest, LastStamp es id kind rest ∧
    ∀ e ∈ rest, ∀ slug, e.call ≠ .findIntegrations slug
  | c => c.Sends → ∃ id kind rest, LastStamp es id kind rest ∧ c.Tells id kind

section Job

variable {workspaceSlug : String} {found : Option CaseSlaSettings} {rows : List Case}
  {es : List CaseMove} {id : String} {kind : BreachKind} {rest : List CaseMove} {kase : Case}

theorem Watching.snoc (h : Watching workspaceSlug found rows es) {e : CaseMove}
    (he : ∀ slug, e.call ≠ .findOpenCases slug) : Watching workspaceSlug found rows (es ++ [e]) := by
  obtain ⟨pre, rest, rfl, hrest⟩ := h.reading
  refine ⟨mem_append_left _ h.settings, pre, rest ++ [e], by simp, fun e' he' => ?_⟩
  rcases mem_append.mp he' with he' | he'
  · exact hrest e' he'
  · exact mem_singleton.mp he' ▸ he

theorem LastStamp.snoc (h : LastStamp es id kind rest) {e : CaseMove}
    (he : ∀ id data, e.call ≠ .updateCase id data) :
    LastStamp (es ++ [e]) id kind (rest ++ [e]) := by
  obtain ⟨pre, time, rfl, hrest⟩ := h
  refine ⟨pre, time, by simp, fun e' he' => ?_⟩
  rcases mem_append.mp he' with he' | he'
  · exact hrest e' he'
  · exact mem_singleton.mp he' ▸ he

theorem jobCall_of_tells {c : CaseCall} (h : LastStamp es id kind rest) (hc : c.Tells id kind) :
    JobCall es c := by
  cases c with
  | createCase data => exact hc
  | updateCase id data => exact hc.elim
  | findIntegrations slug => exact hc.elim
  | _ => exact fun _ => ⟨id, kind, rest, h, hc⟩

theorem calls_sendBreach_tells (kase : Case) (kind : BreachKind) (integ : Integration) :
    (sendBreach kase kind integ).Calls (Tells kase.id kind) := by
  unfold sendBreach
  dsimp only
  split <;> exact calls_ask ⟨rfl, rfl⟩

theorem calls_breachTo (kase : Case) (kind : BreachKind) (integ : Integration) :
    (breachTo kase kind integ).Calls (Tells kase.id kind) := by
  unfold breachTo
  refine Calls.guard fun _ => ?_
  refine Calls.guard fun _ => ?_
  refine Calls.guard fun _ => ?_
  refine (Calls.attempt (calls_sendBreach_tells kase kind integ)).bind fun sent => ?_
  cases sent with
  | error e => exact calls_ask trivial
  | ok u => exact Calls.tryCatch (calls_ask trivial) fun _ => calls_ask trivial

theorem meets_tells {α : Type} {p : CaseProg α} (hp : p.Calls (Tells id kind))
    (hstamp : ∃ rest, LastStamp es id kind rest) (hwatch : Watching workspaceSlug found rows es) :
    p.Meets (World.log caseSig ServiceError) JobCall es fun _ es' =>
      Watching workspaceSlug found rows es' := by
  refine (hp.meets_stable
    (P := fun es' => (∃ rest, LastStamp es' id kind rest) ∧ Watching workspaceSlug found rows es')
    (fun es' c h hc => ?_) (fun es' c r hc _ h => ?_) ⟨hstamp, hwatch⟩).mono fun _ _ h => h.2
  · obtain ⟨⟨rest, hrest⟩, -⟩ := h
    exact jobCall_of_tells hrest hc
  · obtain ⟨⟨rest, hrest⟩, hw⟩ := h
    refine ⟨⟨_, hrest.snoc (e := ⟨c, r⟩) fun id data hid => ?_⟩,
      hw.snoc (e := ⟨c, r⟩) fun slug hslug => ?_⟩
    · rw [show c = .updateCase id data from hid] at hc
      exact hc
    · rw [show c = .findOpenCases slug from hslug] at hc
      exact hc

theorem meets_dispatchCaseSlaBreach (kase : Case) (hwatch : Watching workspaceSlug found rows es)
    (hstamp : LastStamp es kase.id kind rest) (hrest : ∀ e ∈ rest, ∀ slug, e.call ≠ .findIntegrations slug) :
    (dispatchCaseSlaBreach workspaceSlug kase kind).Meets (World.log caseSig ServiceError) JobCall
      es fun _ es' => Watching workspaceSlug found rows es' := by
  refine Meets.call_bind ⟨kase.id, kind, rest, hstamp, hrest⟩
    (fun e _ => hwatch.snoc fun slug h => by cases h) fun integrations _ => ?_
  have hcalls : ((integrations.foldlM (fun _ integ => breachTo kase kind integ) ()) >>=
      fun _ => ask (.sendAlertEmail workspaceSlug kase.id kind.text)).Calls
      (Tells kase.id kind) :=
    (Calls.foldlM fun _ integ _ => calls_breachTo kase kind integ).bind fun _ =>
      calls_ask ⟨rfl, rfl⟩
  exact meets_tells hcalls ⟨_, hstamp.snoc fun id data h => by cases h⟩
    (hwatch.snoc fun slug h => by cases h)

theorem meets_checkBreach (settings : CaseSlaSettings) {status : CaseSlaStatus}
    (kind : BreachKind) {judged : ℕ} (hwatch : Watching workspaceSlug found rows es) (hmem : kase ∈ rows)
    (hjudged : ⟨.now, .ok judged⟩ ∈ es)
    (hstatus : caseSlaStatus kase (thresholdsOf found) judged = .ok status) :
    (checkBreach workspaceSlug settings kase status kind).Meets (World.log caseSig ServiceError)
      JobCall es fun _ es' => Watching workspaceSlug found rows es' := by
  unfold checkBreach
  by_cases hbreach : (status.breached kind && (kase.breachNotifiedAt kind).isNone) = true
  · rw [if_pos hbreach]
    obtain ⟨hbreached, hnone⟩ := Bool.and_eq_true_iff.mp hbreach
    refine Meets.call_bind (fun hsends => hsends.elim)
      (fun e _ => hwatch.snoc fun slug h => by cases h) fun time _ => ?_
    have hwatch₁ := hwatch.snoc (e := ⟨.now, .ok time⟩) fun slug h => by cases h
    refine Meets.call_bind ⟨kind, time, rfl, workspaceSlug, found, rows, kase, hwatch₁, hmem,
      rfl, ⟨es, judged, status, rfl, hjudged, hstatus, hbreached⟩, Option.isNone_iff_eq_none.mp hnone⟩
      (fun e _ => hwatch₁.snoc fun slug h => by cases h) fun u _ => ?_
    have hwatch₂ := hwatch₁.snoc (e := ⟨.updateCase kase.id (stampData kind time), .ok ()⟩)
      fun slug h => by cases h
    have hstamp : LastStamp (es ++ [⟨.now, .ok time⟩] ++
        [⟨.updateCase kase.id (stampData kind time), .ok ()⟩]) kase.id kind [] :=
      ⟨es ++ [⟨.now, .ok time⟩], time, rfl, fun e he => absurd he not_mem_nil⟩
    refine Meets.call_bind (fun hsends => hsends.elim)
      (fun e _ => hwatch₂.snoc fun slug h => by cases h) fun _ _ => ?_
    refine Meets.call_bind (fun hsends => hsends.elim)
      (fun e _ => (hwatch₂.snoc fun slug h => by cases h).snoc fun slug h => by cases h)
      fun _ _ => ?_
    have hwatch₃ := (hwatch₂.snoc (e := ⟨.addTimelineEntry kase.id "sla_breached", .ok ()⟩)
      fun slug h => by cases h).snoc
      (e := ⟨.recordAuditEvent workspaceSlug (caseAudit kind.action "critical" kase.id), .ok ()⟩)
      fun slug h => by cases h
    split_ifs
    · refine meets_dispatchCaseSlaBreach kase hwatch₃ ((hstamp.snoc fun id data h => by cases h).snoc
        fun id data h => by cases h) fun e he slug h => ?_
      simp only [nil_append, mem_append, mem_singleton] at he
      rcases he with rfl | rfl <;> cases h
    · exact hwatch₃
  · rw [if_neg hbreach]
    exact hwatch

theorem meets_monitorCase (hwatch : Watching workspaceSlug found rows es)
    (hmem : kase ∈ rows) (settings : CaseSlaSettings)
    (hsettings : settings.thresholds = thresholdsOf found) :
    (monitorCase workspaceSlug settings kase).Meets (World.log caseSig ServiceError) JobCall es
      fun _ es' => Watching workspaceSlug found rows es' := by
  refine Meets.call_bind (fun hsends => hsends.elim)
    (fun e _ => hwatch.snoc fun slug h => by cases h) fun judged _ => ?_
  have hwatch₁ := hwatch.snoc (e := ⟨.now, .ok judged⟩) fun slug h => by cases h
  rw [hsettings]
  cases hstatus : caseSlaStatus kase (thresholdsOf found) judged with
  | error e => exact hwatch₁
  | ok status =>
    have hjudged : (⟨.now, .ok judged⟩ : CaseMove) ∈ es ++ [⟨.now, .ok judged⟩] :=
      mem_append_right _ (mem_singleton_self _)
    refine Meets.bind (R := fun _ es' => Watching workspaceSlug found rows es' ∧
      ⟨.now, .ok judged⟩ ∈ es') ?_ fun _ es' h =>
        meets_checkBreach settings .resolve h.1 hmem h.2 hstatus
    refine (meets_checkBreach settings .acknowledge hwatch₁ hmem hjudged hstatus).extends.mono fun r es' h => ?_
    cases r with
    | error e => exact h.1
    | ok u => exact ⟨h.1, h.2.mem hjudged⟩

theorem meets_monitorWorkspace (slug : String) :
    (monitorWorkspace slug).Meets (World.log caseSig ServiceError) JobCall es fun _ _ => True := by
  refine Meets.bind (R := fun settings es' => ∃ found,
    ⟨.findSlaSettings slug, .ok found⟩ ∈ es' ∧ settings.thresholds = thresholdsOf found)
    ?_ fun settings es' hsettings => ?_
  · exact Meets.call_bind (fun hsends => hsends.elim) (fun _ _ => trivial) fun found _ =>
      ⟨found, mem_append_right _ (mem_singleton_self _), rfl⟩
  · split_ifs
    · trivial
    · obtain ⟨found, hfound, hthresholds⟩ := hsettings
      refine Meets.call_bind (fun hsends => hsends.elim) (fun _ _ => trivial) fun rows _ => ?_
      have hwatch : Watching slug found rows
          (es' ++ [⟨.findOpenCases slug, .ok rows⟩]) :=
        ⟨mem_append_left _ hfound, es', [], rfl, fun e he => absurd he not_mem_nil⟩
      refine (Meets.foldlM (fun _ _ => Watching slug found rows) (E := fun _ _ => True)
        hwatch fun done kase todo hrows _ es'' hw => ?_).mono fun _ _ _ => trivial
      refine (meets_monitorCase hw (hrows ▸ by simp) settings hthresholds).mono fun r _ h => ?_
      cases r with
      | error e => trivial
      | ok u => exact h

theorem meets_runCaseSlaMonitorTick :
    runCaseSlaMonitorTick.Meets (World.log caseSig ServiceError) JobCall [] fun _ _ => True := by
  refine Meets.call_bind (fun hsends => hsends.elim) (fun _ _ => trivial) fun workspaces _ => ?_
  refine (Meets.foldlM (fun _ _ _ => True) (E := fun _ _ => True) trivial
    fun done slug todo _ _ es _ => ?_).mono fun _ _ _ => trivial
  exact (meets_monitorWorkspace slug).mono fun r _ _ => by cases r <;> trivial

/-- A breach without a stamp has been stamped. -/
def StampMade (es : List CaseMove) (kase : Case) (status : CaseSlaStatus) (kind : BreachKind) :
    Prop :=
  status.breached kind = true → kase.breachNotifiedAt kind = none →
    ∃ time, ⟨.updateCase kase.id (stampData kind time), .ok ()⟩ ∈ es

theorem stampMade_checkBreach (slug : String) (settings : CaseSlaSettings) (kase : Case)
    (status : CaseSlaStatus) (kind : BreachKind) (es : List CaseMove) :
    (checkBreach slug settings kase status kind).Meets (World.log caseSig ServiceError)
      (fun _ _ => True) es
      (post (fun _ es' => es <+: es' ∧ StampMade es' kase status kind) fun _ _ => True) := by
  unfold checkBreach
  by_cases hbreach : (status.breached kind && (kase.breachNotifiedAt kind).isNone) = true
  · rw [if_pos hbreach]
    refine Meets.call_bind trivial (fun _ _ => trivial) fun time _ => ?_
    refine Meets.call_bind trivial (fun _ _ => trivial) fun u _ => ?_
    refine ((calls_true _).meets_extends (fun _ _ h => h) _).mono fun r es' hext => ?_
    cases r with
    | error e => trivial
    | ok u =>
      have hpre : es <+: es ++ [⟨.now, .ok time⟩] ++
          [⟨.updateCase kase.id (stampData kind time), .ok ()⟩] :=
        (prefix_append _ _).trans (prefix_append _ _)
      exact ⟨hpre.trans hext, fun _ _ => ⟨time, hext.mem
        (mem_append_right _ (mem_singleton_self _))⟩⟩
  · rw [if_neg hbreach]
    refine ⟨prefix_refl es, fun hbreached hnone => absurd ?_ hbreach⟩
    rw [hbreached, hnone]
    rfl

/-- A case that the job has gone through has every stamp that it lacked when it
was judged. -/
theorem stampMade_of_monitorCase {settings : CaseSlaSettings}
    (h : Prog.Steps (monitorCase workspaceSlug settings kase) es (.ret (.ok ()))) :
    ∃ judged status, ⟨.now, .ok judged⟩ ∈ es ∧
      caseSlaStatus kase settings.thresholds judged = .ok status ∧
      ∀ kind, StampMade es kase status kind := by
  have hmeets : (monitorCase workspaceSlug settings kase).Meets (World.log caseSig ServiceError)
      (fun _ _ => True) [] (post (fun _ es' => ∃ judged status, ⟨.now, .ok judged⟩ ∈ es' ∧
        caseSlaStatus kase settings.thresholds judged = .ok status ∧
        ∀ kind, StampMade es' kase status kind) fun _ _ => True) := by
    refine Meets.call_bind trivial (fun _ _ => trivial) fun judged _ => ?_
    cases hstatus : caseSlaStatus kase settings.thresholds judged with
    | error e => trivial
    | ok status =>
      refine Meets.bind (stampMade_checkBreach _ _ _ _ .acknowledge _) fun _ es₁ hack => ?_
      refine (stampMade_checkBreach _ _ _ _ .resolve es₁).mono fun r es₂ hres => ?_
      cases r with
      | error e => trivial
      | ok u =>
        have hnow : (⟨.now, .ok judged⟩ : CaseMove) ∈ es₂ := hres.1.mem
          (hack.1.mem (mem_singleton_self _))
        refine ⟨judged, status, hnow, hstatus, fun kind hbreached hnone => ?_⟩
        cases kind with
        | acknowledge =>
          obtain ⟨time, htime⟩ := hack.2 hbreached hnone
          exact ⟨time, hres.1.mem htime⟩
        | resolve => exact hres.2 hbreached hnone
  have hpost := hmeets.post_of_steps h (World.log_accepts _ _)
  rwa [World.log_after, nil_append] at hpost

end Job

/-! ## Deadlines -/

/-- `acknowledgeMinutes` or `resolveMinutes`. -/
def SlaThreshold.minutes (sla : SlaThreshold) : BreachKind → ℕ
  | .acknowledge => sla.acknowledgeMinutes
  | .resolve => sla.resolveMinutes

/-- The deadline of the clock that a row has is before `time`. -/
def Overdue (thresholds : List (String × SlaThreshold)) (row : Case) (kind : BreachKind)
    (time : ℕ) : Prop :=
  ∃ sla, slaOf thresholds row.severity = some sla ∧
    row.slaClockStartedAt + sla.minutes kind * 60000 < time

theorem slaClock_breached {runs : Bool} {anchor now : ℕ} {minutes : Option ℕ}
    {clock : Option ℕ × Bool} (h : slaClock runs anchor minutes now = .ok clock)
    (hbreached : clock.2 = true) : ∃ m, minutes = some m ∧ anchor + m * 60000 < now := by
  unfold slaClock at h
  split at h
  · split at h
    · cases h
    · next m =>
      obtain rfl := Except.ok.inj h
      exact ⟨m, rfl, of_decide_eq_true hbreached⟩
  · obtain rfl := Except.ok.inj h
    cases hbreached

theorem overdue_of_status {kase : Case} {thresholds : List (String × SlaThreshold)} {now : ℕ}
    {status : CaseSlaStatus} {kind : BreachKind}
    (h : caseSlaStatus kase thresholds now = .ok status) (hbreached : status.breached kind = true) :
    Overdue thresholds kase kind now := by
  unfold caseSlaStatus at h
  dsimp only at h
  cases hack : slaClock kase.acknowledgedAt.isNone kase.slaClockStartedAt
      ((slaOf thresholds kase.severity).map SlaThreshold.acknowledgeMinutes) now with
  | error e =>
    rw [hack] at h
    cases h
  | ok ack =>
    cases hres : slaClock kase.status.isOpen kase.slaClockStartedAt
        ((slaOf thresholds kase.severity).map SlaThreshold.resolveMinutes) now with
    | error e =>
      rw [hack, hres] at h
      cases h
    | ok res =>
      rw [hack, hres] at h
      obtain rfl := Except.ok.inj h
      cases kind with
      | acknowledge =>
        obtain ⟨m, hm, hlt⟩ := slaClock_breached hack hbreached
        obtain ⟨sla, hsla, rfl⟩ := Option.map_eq_some_iff.mp hm
        exact ⟨sla, hsla, hlt⟩
      | resolve =>
        obtain ⟨m, hm, hlt⟩ := slaClock_breached hres hbreached
        obtain ⟨sla, hsla, rfl⟩ := Option.map_eq_some_iff.mp hm
        exact ⟨sla, hsla, hlt⟩

theorem Overdue.later {thresholds : List (String × SlaThreshold)} {row kase : Case}
    {kind : BreachKind} {time time' : ℕ} (h : Overdue thresholds kase kind time)
    (hclock : row.slaClockStartedAt = kase.slaClockStartedAt) (hseverity : row.severity = kase.severity)
    (htime : time ≤ time') : Overdue thresholds row kind time' := by
  obtain ⟨sla, hsla, hlt⟩ := h
  exact ⟨sla, hseverity ▸ hsla, hclock ▸ hlt.trans_le htime⟩

/-! ## Rows in a run -/

/-- The thresholds of a workspace. -/
def CaseStore.thresholds (s : CaseStore) (workspaceSlug : String) : List (String × SlaThreshold) :=
  thresholdsOf (s.slaSettings.lookup workspaceSlug)

/-- The clock of a case is started again. -/
def restartsClock (id : String) (e : CaseMove) : Bool :=
  match e with
  | ⟨.updateCase caseId data, .ok _⟩ => caseId = id && data.slaClockStartedAt.isSome
  | _ => false

/-- How often the clock of a case has been started again. -/
def clockPeriod (id : String) (tr : List CaseLabel) : ℕ :=
  tr.countP fun l => restartsClock id l.event

section Rows

variable {s : CaseStore} {e : CaseMove} {es : List CaseMove} {row row' : Case} {kind : BreachKind}
  {data : CaseData}

theorem slaSettings_after (s : CaseStore) (es : List CaseMove) :
    (caseWorld.after s es).slaSettings = s.slaSettings := by
  induction es generalizing s with
  | nil => rfl
  | cons e es ih => exact ih _

@[simp] theorem breachNotifiedAt_stamp (row : Case) (kind kind' : BreachKind) (time now : ℕ) :
    ((stampData kind time).apply row now).breachNotifiedAt kind' =
      if kind' = kind then some time else row.breachNotifiedAt kind' := by
  cases kind <;> cases kind' <;> rfl

theorem breachNotifiedAt_keeps (h : data.KeepsStamps) (row : Case)
    (kind : BreachKind) (now : ℕ) :
    (data.apply row now).breachNotifiedAt kind = row.breachNotifiedAt kind := by
  cases kind <;> simp [Case.breachNotifiedAt, CaseData.apply, h.slaAckBreachNotifiedAt,
    h.slaResolveBreachNotifiedAt]

theorem breachNotifiedAt_restarts (h : data.RestartsClock) (row : Case)
    (kind : BreachKind) (now : ℕ) : (data.apply row now).breachNotifiedAt kind = none := by
  cases kind <;> simp [Case.breachNotifiedAt, CaseData.apply, h.slaAckBreachNotifiedAt,
    h.slaResolveBreachNotifiedAt]

theorem slaClockStartedAt_keeps (h : data.KeepsStamps) (row : Case) (now : ℕ) :
    (data.apply row now).slaClockStartedAt = row.slaClockStartedAt := by
  simp [CaseData.apply, h.slaClockStartedAt]

@[simp] theorem slaClockStartedAt_stamp (kind : BreachKind) (time : ℕ) (row : Case) (now : ℕ) :
    ((stampData kind time).apply row now).slaClockStartedAt = row.slaClockStartedAt := by
  cases kind <;> rfl

/-- What an update does to clocks and stamps. -/
def CaseCall.Clocked : CaseCall → Prop
  | .updateCase _ data => data.KeepsStamps ∨ data.RestartsClock ∨
    ∃ kind time, data = stampData kind time
  | _ => True

theorem stamped_next (hclocked : e.call.Clocked) (hno : restartsClock row.id e = false)
    (hrow : row ∈ s.cases) (hsome : (row.breachNotifiedAt kind).isSome) :
    ∃ row' ∈ (s.next e.call e.answer).cases, row'.id = row.id ∧
      (row'.breachNotifiedAt kind).isSome := by
  obtain ⟨row', hrow', rfl | ⟨data, rfl, rfl⟩⟩ := exists_next hrow e
  · exact ⟨row', hrow', rfl, hsome⟩
  · refine ⟨_, hrow', rfl, ?_⟩
    rcases hclocked with hkeeps | hrestarts | ⟨kind', time, rfl⟩
    · rwa [breachNotifiedAt_keeps hkeeps]
    · simp [restartsClock, hrestarts.slaClockStartedAt] at hno
    · rw [breachNotifiedAt_stamp]
      split_ifs
      · rfl
      · exact hsome

theorem stamped_after (kind : BreachKind) (hclocked : ∀ e ∈ es, e.call.Clocked)
    (hno : ∀ e ∈ es, restartsClock row.id e = false) (hrow : row ∈ s.cases)
    (hsome : (row.breachNotifiedAt kind).isSome) :
    ∃ row' ∈ (caseWorld.after s es).cases, row'.id = row.id ∧
      (row'.breachNotifiedAt kind).isSome := by
  induction es generalizing s row with
  | nil => exact ⟨row, hrow, rfl, hsome⟩
  | cons e es ih =>
    obtain ⟨row₁, hrow₁, hid, hsome₁⟩ := stamped_next (hclocked e mem_cons_self)
      (hno e mem_cons_self) hrow hsome
    obtain ⟨row', hrow', hid', hsome'⟩ := ih (s := s.next e.call e.answer)
      (fun e he => hclocked e (mem_cons_of_mem _ he))
      (fun e he => hid ▸ hno e (mem_cons_of_mem _ he)) hrow₁ hsome₁
    exact ⟨row', hrow', hid'.trans hid, hsome'⟩

end Rows

/-! ## Runs -/

/-- A row that is stamped still has the clock and the severity that the job has
read, and no stamp of that kind. -/
def Punctual (_ : List CaseLabel) (s : CaseStore) (l : CaseLabel) : Prop :=
  ∀ id kind time, l.event = ⟨.updateCase id (stampData kind time), .ok ()⟩ →
    ∀ rows, LastRead l.past rows → ∀ kase ∈ rows, kase.id = id →
      ∀ row ∈ s.cases, row.id = id → row.slaClockStartedAt = kase.slaClockStartedAt ∧
        row.severity = kase.severity ∧ row.breachNotifiedAt kind = none

/-- `l` begins a notification of a breach, whose stamp was made in the given
period of the clock. -/
def NotifiesIn (tr : List CaseLabel) (l : CaseLabel) (id : String) (kind : BreachKind)
    (period : ℕ) : Prop :=
  l.task = .slaTick ∧ (∃ slug, l.event.call = .findIntegrations slug) ∧
  ∃ before x after rest time, tr = before ++ x :: after ∧ x.thread = l.thread ∧
    x.event = ⟨.updateCase id (stampData kind time), .ok ()⟩ ∧
    l.past = ownEvents l.thread before ++ x.event :: rest ∧
    (∀ e ∈ rest, ∀ id data, e.call ≠ .updateCase id data) ∧ clockPeriod id before = period

/-- What a task calls, told from its own calls. -/
def TaskCall (task : CaseTask) (es : List CaseMove) (c : CaseCall) : Prop :=
  if task = .slaTick then JobCall es c else c.Unstamping

section Runs

variable {rt : TextRuntime} {cond : List CaseLabel → CaseStore → CaseLabel → Prop} {s : CaseStore}
  {ts : List CaseTask} {tr pre mid post : List CaseLabel} {l x y : CaseLabel}
  {cfg : Config caseSig ServiceError CaseStore CaseTask} {id : String} {kind : BreachKind}
  {time : ℕ}

theorem meets_body (rt : TextRuntime) (task : CaseTask) :
    (task.body rt).Meets (World.log caseSig ServiceError) (TaskCall task) [] fun _ _ => True := by
  by_cases h : task = .slaTick
  · subst h
    exact meets_runCaseSlaMonitorTick.weaken fun es c hc => by rwa [TaskCall, if_pos rfl]
  · refine ((Prog.ensures_iff_meets _ _ []).mp (calls_body rt h)).weaken
      (fun es c hc => ?_) |>.mono fun _ _ _ => trivial
    rwa [TaskCall, if_neg h]

theorem taskCall_of_run (h : Run (caseSystem rt) cond ((caseSystem rt).launch s ts) tr cfg)
    (hl : l ∈ tr) : TaskCall l.task l.past l.event.call :=
  h.ok_of_meets TaskCall (meets_body rt) l hl

theorem clocked_of_taskCall {task : CaseTask} {es : List CaseMove} {c : CaseCall}
    (h : TaskCall task es c) : c.Clocked := by
  unfold TaskCall at h
  cases c with
  | updateCase id data =>
    split_ifs at h
    · obtain ⟨kind, time, hdata, -⟩ := h
      exact .inr (.inr ⟨kind, time, hdata⟩)
    · exact h.imp_right .inl
  | _ => trivial

theorem judged_of_stamp (h : Run (caseSystem rt) cond ((caseSystem rt).launch s ts) tr cfg)
    (hl : l ∈ tr) (hevent : l.event = ⟨.updateCase id (stampData kind time), .ok ()⟩) :
    ∃ slug found rows kase, Judged l.past id kind time slug found rows kase := by
  have hcall := taskCall_of_run h hl
  rw [hevent, TaskCall] at hcall
  split_ifs at hcall
  · obtain ⟨kind', time', hdata, hjudged⟩ := hcall
    have hsame : kind = kind' ∧ time = time' := by
      cases kind <;> cases kind' <;> simp_all [stampData]
    rwa [hsame.1, hsame.2]
  · rcases hcall with hkeeps | hrestarts
    · cases kind
      · exact absurd hkeeps.slaAckBreachNotifiedAt (by simp [stampData])
      · exact absurd hkeeps.slaResolveBreachNotifiedAt (by simp [stampData])
    · have := hrestarts.slaClockStartedAt
      cases kind <;> simp [stampData] at this

theorem judged_le (h : Run (caseSystem rt) cond ((caseSystem rt).launch s ts) tr cfg)
    (hunique : s.Unique) (htr : tr = pre ++ l :: post) {es : List CaseMove} {judged : ℕ}
    (hpast : l.past = es ++ [⟨.now, .ok time⟩]) (hjudged : ⟨.now, .ok judged⟩ ∈ es) :
    judged ≤ time := by
  have hown := h.past_eq htr
  rw [hpast] at hown
  obtain ⟨before, y, after, rfl, hthread, hevent, hbefore, -⟩ := exists_of_ownEvents hown.symm
  have htr' : tr = before ++ y :: (after ++ l :: post) := by simp [htr]
  have htime : time = (storeAfter s before).now := by
    have hmay := (before_label h hunique htr').2.1
    rw [hevent] at hmay
    exact hmay
  have hpast' : y.past = es := by rw [h.past_eq htr', hthread, hbefore]
  obtain ⟨before', x, after', rfl, -, hmay⟩ := label_of_mem_past h hunique htr' (hpast' ▸ hjudged)
  have hearlier : judged = (storeAfter s before').now := hmay
  rw [hearlier, htime, storeAfter_append]
  exact now_after _ _

/-- **Step lemma**: where a row is stamped it has no stamp of that kind, and the
deadline of its clock has passed. -/
theorem overdue_of_stamp (h : Run (caseSystem rt) Punctual ((caseSystem rt).launch s ts) tr cfg)
    (hunique : s.Unique) (htr : tr = pre ++ l :: post)
    (hevent : l.event = ⟨.updateCase id (stampData kind time), .ok ()⟩) {row : Case}
    (hrow : row ∈ (storeAfter s pre).cases) (hid : row.id = id) :
    row.breachNotifiedAt kind = none ∧ Overdue (s.thresholds row.workspaceSlug) row kind time := by
  have hl : l ∈ tr := htr ▸ mem_append_right _ mem_cons_self
  obtain ⟨slug, found, rows, kase, hjudged⟩ := judged_of_stamp h hl hevent
  obtain ⟨hstoreUnique, -, hpunctual⟩ := before_label h hunique htr
  obtain ⟨prefix', rest, hreading, hrest⟩ := hjudged.watching.reading
  obtain ⟨hclock, hseverity, hnone⟩ := hpunctual id kind time hevent rows
    ⟨slug, prefix', rest, hreading, hrest⟩ kase hjudged.mem hjudged.id_eq row hrow hid
  obtain ⟨es₁, judged, status, hpast, hnow, hstatus, hbreached⟩ := hjudged.times
  -- the settings and the cases were read under the slug of the row
  obtain ⟨before₁, l₁, after₁, -, -, hmay₁⟩ :=
    label_of_mem_past h hunique htr hjudged.watching.settings
  have hfound : found = s.slaSettings.lookup slug := by
    rw [← slaSettings_after s (before₁.map Label.event)]
    exact hmay₁
  obtain ⟨before₂, l₂, after₂, hpre₂, -, hmay₂⟩ := label_of_mem_past h hunique htr
    (e := ⟨.findOpenCases slug, .ok rows⟩)
    (hreading ▸ mem_append_right _ mem_cons_self)
  have hread : kase ∈ (storeAfter s before₂).openCases slug :=
    (show rows = _ from hmay₂) ▸ hjudged.mem
  obtain ⟨hkase, hopen⟩ := mem_filter.mp hread
  have hslug : kase.workspaceSlug = slug := by
    rw [Bool.and_eq_true] at hopen
    exact of_decide_eq_true hopen.1
  obtain ⟨row', hrow', hid', hslug'⟩ :=
    workspaceSlug_after hkase ((l₂ :: after₂).map Label.event)
  have hsame : row' = row := by
    refine hstoreUnique.eq ?_ hrow (hid'.trans (hjudged.id_eq.trans hid.symm))
    rw [hpre₂, storeAfter_append]
    exact hrow'
  refine ⟨hnone, ?_⟩
  rw [← hsame, hslug', hslug, CaseStore.thresholds, ← hfound, hsame]
  exact (overdue_of_status hstatus hbreached).later hclock hseverity
    (judged_le h hunique htr hpast hnow)

/-- Between two stamps of one kind on one case its clock is started again. -/
theorem restarts_between (h : Run (caseSystem rt) Punctual ((caseSystem rt).launch s ts) tr cfg)
    (hunique : s.Unique) (htr : tr = pre ++ x :: (mid ++ y :: post)) {time' : ℕ}
    (hx : x.event = ⟨.updateCase id (stampData kind time), .ok ()⟩)
    (hy : y.event = ⟨.updateCase id (stampData kind time'), .ok ()⟩) :
    ∃ l ∈ mid, restartsClock id l.event = true := by
  by_contra hnone
  have hno : ∀ l ∈ mid, restartsClock id l.event = false := fun l hl =>
    Bool.eq_false_iff.mpr fun hrestarts => hnone ⟨l, hl, hrestarts⟩
  obtain ⟨row, hrow, hid⟩ : ∃ row ∈ (storeAfter s pre).cases, row.id = id := by
    have hmay := (before_label h hunique htr).2.1
    rw [hx] at hmay
    exact hmay
  have hstamped : (stampData kind time).apply row (storeAfter s pre).now ∈
      (storeAfter s (pre ++ [x])).cases := by
    rw [storeAfter_append]
    show _ ∈ ((storeAfter s pre).next x.event.call x.event.answer).cases
    rw [hx]
    exact mem_map.mpr ⟨row, hrow, if_pos hid⟩
  obtain ⟨row', hrow', hid', hsome⟩ := stamped_after kind (fun e (he : e ∈ mid.map Label.event) => by
      obtain ⟨l, hl, rfl⟩ := mem_map.mp he
      exact clocked_of_taskCall (taskCall_of_run h (htr ▸ by simp [hl])))
    (fun e he => by
      obtain ⟨l, hl, rfl⟩ := mem_map.mp he
      rw [apply_id, hid]
      exact hno l hl) hstamped (by simp)
  have htr' : tr = (pre ++ x :: mid) ++ y :: post := by simp [htr]
  have hmid : pre ++ x :: mid = (pre ++ [x]) ++ mid := by simp
  have hrow'' : row' ∈ (storeAfter s (pre ++ x :: mid)).cases := by
    rw [hmid, storeAfter_append]
    exact hrow'
  rw [(overdue_of_stamp h hunique htr' hy hrow'' (hid'.trans hid)).1] at hsome
  cases hsome

theorem notifiesIn_of_call (h : Run (caseSystem rt) cond ((caseSystem rt).launch s ts) tr cfg)
    (hl : l ∈ tr) (htask : l.task = .slaTick) {slug : String}
    (hcall : l.event.call = .findIntegrations slug) :
    ∃ id kind period, NotifiesIn tr l id kind period := by
  obtain ⟨pre, post, rfl⟩ := append_of_mem hl
  have hjob := taskCall_of_run h hl
  rw [TaskCall, if_pos htask, hcall] at hjob
  obtain ⟨id, kind, rest, ⟨pre', time, hpast, hrest⟩, -⟩ := hjob
  obtain ⟨before, x, after, rfl, hthread, hevent, hbefore, hafter⟩ :=
    exists_of_ownEvents ((h.past_eq rfl).symm.trans hpast)
  exact ⟨id, kind, _, htask, ⟨slug, hcall⟩, before, x, after ++ l :: post, rest, time, by simp,
    hthread, hevent, by rw [hpast, hbefore, hevent], hrest, rfl⟩

theorem clockPeriod_lt (id : String) (before mid : List CaseLabel) (x : CaseLabel)
    (h : ∃ l ∈ mid, restartsClock id l.event = true) :
    clockPeriod id before < clockPeriod id (before ++ x :: mid) := by
  have hpos := countP_pos_iff.mpr h
  rw [clockPeriod, clockPeriod, countP_append, countP_cons]
  omega

theorem rest_unique {es₁ es₂ rest₁ rest₂ : List CaseMove} {e₁ e₂ : CaseMove}
    (h : es₁ ++ e₁ :: rest₁ = es₂ ++ e₂ :: rest₂) (he₁ : ∃ id data, e₁.call = .updateCase id data)
    (he₂ : ∃ id data, e₂.call = .updateCase id data)
    (hrest₁ : ∀ e ∈ rest₁, ∀ id data, e.call ≠ .updateCase id data)
    (hrest₂ : ∀ e ∈ rest₂, ∀ id data, e.call ≠ .updateCase id data) : rest₁ = rest₂ := by
  obtain ⟨id₁, data₁, he₁⟩ := he₁
  obtain ⟨id₂, data₂, he₂⟩ := he₂
  rcases append_eq_append_iff.mp h with ⟨as, -, has⟩ | ⟨as, -, has⟩
  · rcases as with _ | ⟨a, as⟩
    · exact (List.cons.inj has).2
    · obtain ⟨-, rfl⟩ := List.cons.inj has
      exact absurd he₂ (hrest₁ e₂ (mem_append_right _ mem_cons_self) id₂ data₂)
  · rcases as with _ | ⟨a, as⟩
    · exact (List.cons.inj has).2.symm
    · obtain ⟨-, rfl⟩ := List.cons.inj has
      exact absurd he₁ (hrest₂ e₁ (mem_append_right _ mem_cons_self) id₁ data₁)

theorem stamp_ne (h : Run (caseSystem rt) cond ((caseSystem rt).launch s ts) tr cfg)
    {l₁ l₂ : CaseLabel} (htr : tr = pre ++ l₁ :: (mid ++ l₂ :: post)) {before : List CaseLabel}
    {x : CaseLabel} {rest₁ rest₂ : List CaseMove}
    (hevent : x.event = ⟨.updateCase id (stampData kind time), .ok ()⟩)
    (hthread₁ : x.thread = l₁.thread) (hthread₂ : x.thread = l₂.thread)
    (hpast₁ : l₁.past = ownEvents l₁.thread before ++ x.event :: rest₁)
    (hpast₂ : l₂.past = ownEvents l₂.thread before ++ x.event :: rest₂)
    (hrest₂ : ∀ e ∈ rest₂, ∀ id data, e.call ≠ .updateCase id data)
    (htask : l₂.task = .slaTick) {slug slug' : String}
    (hcall₁ : l₁.event.call = .findIntegrations slug)
    (hcall₂ : l₂.event.call = .findIntegrations slug') : False := by
  have htr₂ : tr = (pre ++ l₁ :: mid) ++ l₂ :: post := by simp [htr]
  -- the second has the first in its past, after the stamp
  have hlonger : l₂.past = l₁.past ++ l₁.event :: ownEvents l₂.thread mid := by
    have hsame : l₁.thread = l₂.thread := hthread₁.symm.trans hthread₂
    rw [h.past_eq htr₂, h.past_eq htr, hsame]
    simp [ownEvents, hsame]
  have hrest : rest₂ = rest₁ ++ l₁.event :: ownEvents l₂.thread mid := by
    have happ : ownEvents l₁.thread before ++ x.event :: rest₂ =
        ownEvents l₁.thread before ++
          x.event :: (rest₁ ++ l₁.event :: ownEvents l₂.thread mid) := by
      have hsame : l₁.thread = l₂.thread := hthread₁.symm.trans hthread₂
      calc ownEvents l₁.thread before ++ x.event :: rest₂
          = l₂.past := by rw [hpast₂, hsame]
        _ = l₁.past ++ l₁.event :: ownEvents l₂.thread mid := hlonger
        _ = _ := by rw [hpast₁, append_assoc, cons_append]
    exact (List.cons.inj (append_cancel_left happ)).2
  have hjob := taskCall_of_run h (l := l₂) (htr₂ ▸ by simp)
  rw [TaskCall, if_pos htask, hcall₂] at hjob
  obtain ⟨id', kind', rest', ⟨pre', time', hpast', hrest'⟩, hnone⟩ := hjob
  have hsame := rest_unique (hpast₂.symm.trans hpast') ⟨id, _, congrArg Event.call hevent⟩
    ⟨id', _, rfl⟩ hrest₂ hrest'
  exact hnone l₁.event (hsame ▸ hrest ▸ mem_append_right _ mem_cons_self) slug hcall₁

/-- Two notifications of one kind on one case are of different periods. -/
theorem period_ne (h : Run (caseSystem rt) Punctual ((caseSystem rt).launch s ts) tr cfg)
    (hunique : s.Unique) {l₁ l₂ : CaseLabel} (htr : tr = pre ++ l₁ :: (mid ++ l₂ :: post))
    {n₁ n₂ : ℕ} (h₁ : NotifiesIn tr l₁ id kind n₁) (h₂ : NotifiesIn tr l₂ id kind n₂) : n₁ ≠ n₂ := by
  obtain ⟨-, ⟨slug₁, hcall₁⟩, before₁, x₁, after₁, rest₁, time₁, htr₁, hthread₁, hevent₁, hpast₁,
    -, rfl⟩ := h₁
  obtain ⟨htask₂, ⟨slug₂, hcall₂⟩, before₂, x₂, after₂, rest₂, time₂, htr₂, hthread₂, hevent₂,
    hpast₂, hrest₂, rfl⟩ := h₂
  rcases append_eq_append_iff.mp (htr₁.symm.trans htr₂) with ⟨as, rfl, has⟩ | ⟨as, rfl, has⟩
  · rcases as with _ | ⟨a, as⟩
    · obtain ⟨rfl, -⟩ := List.cons.inj has
      rw [append_nil] at hpast₂
      exact (stamp_ne h htr hevent₁ hthread₁ hthread₂ hpast₁ hpast₂ hrest₂ htask₂ hcall₁
        hcall₂).elim
    · obtain ⟨rfl, rfl⟩ := List.cons.inj has
      exact (clockPeriod_lt id before₁ as x₁ (restarts_between h hunique htr₁ hevent₁ hevent₂)).ne
  · rcases as with _ | ⟨a, as⟩
    · obtain ⟨rfl, -⟩ := List.cons.inj has
      rw [append_nil] at hpast₁
      exact (stamp_ne h htr hevent₂ hthread₁ hthread₂ hpast₁ hpast₂ hrest₂ htask₂ hcall₁
        hcall₂).elim
    · obtain ⟨rfl, rfl⟩ := List.cons.inj has
      exact (clockPeriod_lt id before₂ as x₂ (restarts_between h hunique htr₂ hevent₂ hevent₁)).ne'

/-- A stamp of a row is of the clock that the row has: it was there under that
clock when the run began, or was made under it after its deadline. -/
def OfClock (s : CaseStore) (tr : List CaseLabel) (row : Case) (kind : BreachKind) (time : ℕ) :
    Prop :=
  (clockPeriod row.id tr = 0 ∧ ∃ row₀ ∈ s.cases, row₀.id = row.id ∧
    row₀.slaClockStartedAt = row.slaClockStartedAt ∧ row₀.breachNotifiedAt kind = some time) ∨
  ∃ pre l post, tr = pre ++ l :: post ∧
    l.event = ⟨.updateCase row.id (stampData kind time), .ok ()⟩ ∧ clockPeriod row.id post = 0 ∧
    ∃ row₁ ∈ (storeAfter s pre).cases, row₁.id = row.id ∧
      row₁.slaClockStartedAt = row.slaClockStartedAt ∧
      Overdue (s.thresholds row.workspaceSlug) row₁ kind time

theorem OfClock.snoc {row row' : Case} (h : OfClock s tr row kind time)
    (hno : restartsClock row.id l.event = false) (hid : row'.id = row.id)
    (hslug : row'.workspaceSlug = row.workspaceSlug)
    (hclock : row'.slaClockStartedAt = row.slaClockStartedAt) :
    OfClock s (tr ++ [l]) row' kind time := by
  have hsnoc : ∀ tr' : List CaseLabel, clockPeriod row.id tr' = 0 →
      clockPeriod row.id (tr' ++ [l]) = 0 := fun tr' h => by
    rw [clockPeriod, countP_append, ← clockPeriod, h]
    simp [hno]
  unfold OfClock
  rw [hid, hslug, hclock]
  rcases h with ⟨hperiod, hrow⟩ | ⟨pre, x, post, rfl, hx, hperiod, hrow⟩
  · exact .inl ⟨hsnoc tr hperiod, hrow⟩
  · exact .inr ⟨pre, x, post ++ [l], by simp, hx, hsnoc post hperiod, hrow⟩

theorem ofClock_of_run (h : Run (caseSystem rt) Punctual ((caseSystem rt).launch s ts) tr cfg)
    (hunique : s.Unique) : ∀ row ∈ cfg.store.cases, ∀ kind time,
      row.breachNotifiedAt kind = some time → OfClock s tr row kind time := by
  induction h with
  | nil => exact fun row hrow kind time hsome => .inl ⟨rfl, row, hrow, rfl, rfl, hsome⟩
  | @snoc tr cfg cfg' l hrun hstep hcond ih =>
    intro row' hrow' kind time hsome
    have hwhole := hrun.snoc hstep hcond
    have hclocked := clocked_of_taskCall (taskCall_of_run hwhole (l := l) (by simp))
    rw [hstep.store_eq] at hrow'
    rcases rows_next hrow' with ⟨hold, hnot⟩ | ⟨row, hrow, data, hevent, rfl⟩ | ⟨data, hevent⟩
    · refine (ih row' hold kind time hsome).snoc ?_ rfl rfl rfl
      unfold restartsClock
      split
      · next caseId data u hl =>
        by_cases hid : caseId = row'.id
        · exact absurd (hid ▸ hl) (hnot data)
        · simp [hid]
      · rfl
    · rw [hevent] at hclocked
      rcases hclocked with hkeeps | hrestarts | ⟨kind', time', rfl⟩
      · rw [breachNotifiedAt_keeps hkeeps] at hsome
        refine (ih row hrow kind time hsome).snoc ?_ rfl rfl (slaClockStartedAt_keeps hkeeps _ _)
        rw [hevent]
        simp [restartsClock, hkeeps.slaClockStartedAt]
      · rw [breachNotifiedAt_restarts hrestarts] at hsome
        cases hsome
      · rw [breachNotifiedAt_stamp] at hsome
        split_ifs at hsome with hkind
        · obtain rfl := Option.some.inj hsome
          subst hkind
          have hstore : cfg.store = storeAfter s tr := hrun.store_eq
          refine .inr ⟨tr, l, [], rfl, hevent, rfl, row, hstore ▸ hrow, rfl, by simp, ?_⟩
          exact (overdue_of_stamp hwhole hunique rfl hevent (hstore ▸ hrow) rfl).2
        · refine (ih row hrow kind time hsome).snoc ?_ rfl rfl (by simp)
          rw [hevent]
          cases kind' <;> simp [restartsClock, stampData]
    · have hmay := hstep.may
      rw [show l.event = ⟨.createCase data, .ok row'⟩ from hevent] at hmay
      obtain ⟨id, -, rfl⟩ := hmay
      cases kind <;> cases hsome

/-- In every run in which each row that is stamped still has the clock and the
severity that the job has read, and no stamp: what the job sends tells of the
breach stamped last; each notification has a stamp of its own, and no two of
one kind on one case are of the same period of its clock; a stored stamp is of
the clock that its row has, whose deadline had passed when it was made; and a
case that the job has gone through has every stamp that it lacked. -/
theorem notified_once_per_clock {rt : TextRuntime} {s : CaseStore} {ts : List CaseTask}
    {tr : List CaseLabel} {cfg : Config caseSig ServiceError CaseStore CaseTask}
    (hunique : s.Unique)
    (h : Run (caseSystem rt) Punctual ((caseSystem rt).launch s ts) tr cfg) :
    (∀ l ∈ tr, l.task = .slaTick → l.event.call.Sends →
      ∃ id kind rest, LastStamp l.past id kind rest ∧ l.event.call.Tells id kind) ∧
    (∀ l ∈ tr, l.task = .slaTick → ∀ slug, l.event.call = .findIntegrations slug →
      ∃ id kind period, NotifiesIn tr l id kind period) ∧
    (∀ pre l₁ mid l₂ post, tr = pre ++ l₁ :: (mid ++ l₂ :: post) → ∀ id kind n₁ n₂,
      NotifiesIn tr l₁ id kind n₁ → NotifiesIn tr l₂ id kind n₂ → n₁ ≠ n₂) ∧
    (∀ row ∈ cfg.store.cases, ∀ kind time, row.breachNotifiedAt kind = some time →
      OfClock s tr row kind time) ∧
    ∀ slug settings kase es, Prog.Steps (monitorCase slug settings kase) es (.ret (.ok ())) →
      ∃ judged status, ⟨.now, .ok judged⟩ ∈ es ∧
        caseSlaStatus kase settings.thresholds judged = .ok status ∧
        ∀ kind, StampMade es kase status kind := by
  refine ⟨fun l hl htask hsends => ?_, fun l hl htask slug hcall => notifiesIn_of_call h hl htask
    hcall, fun pre l₁ mid l₂ post htr id kind n₁ n₂ => period_ne h hunique htr,
    ofClock_of_run h hunique, fun slug settings kase es => stampMade_of_monitorCase⟩
  have hjob := taskCall_of_run h hl
  rw [TaskCall, if_pos htask] at hjob
  generalize l.event.call = c at hjob hsends ⊢
  cases c with
  | sendChatNotification => exact hjob hsends
  | sendGenericWebhook => exact hjob hsends
  | sendPagingEvent => exact hjob hsends
  | sendAlertEmail => exact hjob hsends
  | _ => exact hsends.elim

end Runs

/-! ## A case that is reopened -/

/-- A row still has what the job has read of it. -/
def unchanged (data : CaseData) (kase row : Case) : Bool :=
  row.slaClockStartedAt = kase.slaClockStartedAt && row.severity = kase.severity &&
    (data.slaAckBreachNotifiedAt.isNone || row.slaAckBreachNotifiedAt.isNone) &&
    (data.slaResolveBreachNotifiedAt.isNone || row.slaResolveBreachNotifiedAt.isNone)

/-- A check of `Punctual`: whatever is stamped is as it was whenever the job has
read it. -/
def punctualCheck (_ : List CaseLabel) (s : CaseStore) (l : CaseLabel) : Bool :=
  match l.event with
  | ⟨.updateCase id data, .ok _⟩ => l.past.all fun e =>
    match e with
    | ⟨.findOpenCases _, .ok rows⟩ => rows.all fun kase => kase.id ≠ id ||
      s.cases.all fun row => row.id ≠ id || unchanged data kase row
    | _ => true
  | _ => true

theorem punctualCheck_sound (tr : List CaseLabel) (s : CaseStore) (l : CaseLabel)
    (h : punctualCheck tr s l = true) : Punctual tr s l := by
  rintro id kind time hevent rows ⟨slug, pre, rest, hpast, -⟩ kase hkase hid row hrow hrowId
  unfold punctualCheck at h
  rw [hevent] at h
  have hread := all_eq_true.mp h ⟨.findOpenCases slug, .ok rows⟩
    (hpast ▸ mem_append_right _ mem_cons_self)
  have hrows := all_eq_true.mp hread kase hkase
  simp only [hid, ne_eq, not_true_eq_false, decide_false, Bool.false_or] at hrows
  have hsame := all_eq_true.mp hrows row hrow
  simp only [hrowId, not_true_eq_false, decide_false, Bool.false_or, unchanged,
    Bool.and_eq_true, decide_eq_true_eq] at hsame
  obtain ⟨⟨⟨hclock, hseverity⟩, hack⟩, hres⟩ := hsame
  refine ⟨hclock, hseverity, ?_⟩
  cases kind with
  | acknowledge =>
    show row.slaAckBreachNotifiedAt = none
    simpa [stampData] using hack
  | resolve =>
    show row.slaResolveBreachNotifiedAt = none
    simpa [stampData] using hres

/-- A critical case that was opened at time 0, under a clock that moves on by
`step` milliseconds with each answer. -/
def criticalCase (step : ℕ) : CaseStore where
  cases := [{ id := "c1", workspaceSlug := "acme", title := "Malware", severity := "critical",
              source := "manual", slaClockStartedAt := 0, updatedAt := 0 }]
  clock n := 1000000 + step * n
  clock_mono _ _ h := Nat.add_le_add_left (Nat.mul_le_mul_left step h) 1000000

theorem criticalCase_unique (step : ℕ) : (criticalCase step).Unique :=
  nodup_singleton _

/-- The job beside a closing and a reopening, and the job again. -/
def reopeningTasks : List CaseTask :=
  [.slaTick, .update "acme" "c1" { status := some "closed" } none,
    .update "acme" "c1" { status := some "open" } none, .slaTick]

/-- The tasks in the order of a schedule. -/
def reopeningRun (step : ℕ) (schedule : List ℕ) :
    List CaseLabel × Config caseSig ServiceError CaseStore CaseTask :=
  ((caseSystem plainText).launch (criticalCase step) reopeningTasks).play (caseSystem plainText)
    CaseStore.reply schedule

/-- One task after the other. -/
def oneByOne : List ℕ :=
  List.replicate 20 0 ++ List.replicate 20 1 ++ List.replicate 20 2 ++ List.replicate 20 3

/-- The job stamps the case under both of its clocks. -/
theorem notified_once_per_clock_reopened :
    ((reopeningRun 1000000 oneByOne).1.filter fun l =>
      decide (l.task = .slaTick) && match l.event.call with
        | .findIntegrations _ => true
        | _ => false).length = 2 ∧
    ∀ row ∈ (reopeningRun 1000000 oneByOne).2.store.cases, ∀ kind time,
      row.breachNotifiedAt kind = some time →
      OfClock (criticalCase 1000000) (reopeningRun 1000000 oneByOne).1 row kind time := by
  have hadmits := Config.admits_of_admitted (caseSystem plainText) CaseStore.reply
    punctualCheck_sound oneByOne [] ((caseSystem plainText).launch (criticalCase 1000000)
      reopeningTasks) (by decide +kernel)
  have hrun : Run (caseSystem plainText) Punctual ((caseSystem plainText).launch
      (criticalCase 1000000) reopeningTasks) (reopeningRun 1000000 oneByOne).1
      (reopeningRun 1000000 oneByOne).2 :=
    Run.nil.play (caseSystem plainText) CaseStore.reply may_reply oneByOne hadmits
  exact ⟨by decide +kernel,
    (notified_once_per_clock (criticalCase_unique 1000000) hrun).2.2.2.1⟩

/-- The case is closed and reopened after the job has read it. -/
def overtakenRun : List CaseLabel × Config caseSig ServiceError CaseStore CaseTask :=
  reopeningRun 1 (List.replicate 3 0 ++ List.replicate 20 1 ++ List.replicate 20 2 ++
    List.replicate 20 0)

/-- The clock that was started at the reopening gets the stamp of the one before,
long before its own deadline. -/
theorem reopened_case_stamped :
    ¬∀ (rt : TextRuntime) (s : CaseStore) (ts : List CaseTask) (tr : List CaseLabel)
      (cfg : Config caseSig ServiceError CaseStore CaseTask), s.Unique →
      Run (caseSystem rt) always ((caseSystem rt).launch s ts) tr cfg →
      ∀ row ∈ cfg.store.cases, ∀ kind time, row.breachNotifiedAt kind = some time →
        OfClock s tr row kind time := by
  intro hall
  have hrun : Run (caseSystem plainText) always ((caseSystem plainText).launch (criticalCase 1)
      reopeningTasks) overtakenRun.1 overtakenRun.2 :=
    Config.run_play (caseSystem plainText) CaseStore.reply may_reply _ _
  obtain ⟨row, hrow, hclock, hstamp, hslug⟩ : ∃ row ∈ overtakenRun.2.store.cases,
      row.slaClockStartedAt = 1000014 ∧ row.breachNotifiedAt .acknowledge = some 1000024 ∧
      row.workspaceSlug = "acme" := by decide +kernel
  rcases hall _ _ _ _ _ (criticalCase_unique 1) hrun row hrow .acknowledge _ hstamp with
    ⟨-, row₀, hrow₀, -, -, hstamp₀⟩ | ⟨pre, l, post, htr, -, -, row₁, hrow₁, -, hclock₁, sla, hsla,
      hlt⟩
  · rw [mem_singleton.mp hrow₀] at hstamp₀
    cases hstamp₀
  · have hsevere : ∀ n < overtakenRun.1.length + 1,
        ∀ row ∈ (storeAfter (criticalCase 1) (overtakenRun.1.take n)).cases,
          row.severity = "critical" := by decide +kernel
    have hlen : pre.length < overtakenRun.1.length + 1 := by
      rw [htr, length_append]
      omega
    have hpre : overtakenRun.1.take pre.length = pre := by rw [htr, take_left]
    have hcritical : slaOf ((criticalCase 1).thresholds "acme") "critical" = some ⟨15, 240⟩ := by
      decide +kernel
    have hrow₁' : row₁ ∈ (storeAfter (criticalCase 1) (overtakenRun.1.take pre.length)).cases := by
      rwa [hpre]
    rw [hsevere pre.length hlen row₁ hrow₁', hslug, hcritical] at hsla
    obtain rfl := Option.some.inj hsla
    rw [hclock₁, hclock] at hlt
    exact absurd hlt (by decide)

end AppliverySoar.Cases
