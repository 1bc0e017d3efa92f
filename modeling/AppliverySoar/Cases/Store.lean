import AppliverySoar.Async.Pool
import AppliverySoar.Async.Sequence
import AppliverySoar.Cases.Service
import Mathlib.Data.List.Dedup
import Mathlib.Order.Monotone.Basic

/-!
# The case table and the two jobs over it

`runTicketStatusSyncTick` and `runCaseSlaMonitorTick` (caseJobs.ts, lines
40–118) beside the functions of the service, the rows that all of them read and
write, and the requests as tasks. A job goes through the rows that it has read at
its beginning.

Results:
* `rows_next`: a call changes a row by the data of an update, and adds a row by
  the data of a creation.
* `unique_next`: the ids of the rows stay different.
* `may_reply`: answers that the tables may give, for runs on fixed inputs.
-/

namespace AppliverySoar.Cases

open Async Access Automations Compliance List
  AppliverySoar.Workflows

/-! ## The jobs -/

/-- What the job does with a case that was open (lines 50–71). -/
def syncOpenCase (workspaceSlug : String) (integrations : List Integration) (kase : Case) :
    CaseProg Unit := do
  let synced ← syncCaseTicketRefs kase.externalRefs (integrations.map Integration.type)
  ask (.updateCase kase.id { externalRefs := some synced.1 })
  forSome synced.2.head? fun ref =>
    if autoCloses integrations ref then do
      let now ← ask .now
      ask (.updateCase kase.id { status := some .resolved, closedAt := some (some now) })
      ask (.addTimelineEntry kase.id "note_added")
      ask (.recordAuditEvent workspaceSlug (caseAudit "case_auto_resolved" "info" kase.id))
    else ask (.addTimelineEntry kase.id "note_added")

/-- One open case of `runTicketStatusSyncTick`. -/
def tickOpenCase (workspaceSlug : String) (integrations : List Integration) (kase : Case) :
    CaseProg Unit :=
  if !(kase.externalRefs.any fun r => (integrations.map Integration.type).contains r.type) then
    pure ()
  else
    tryCatchThe ServiceError (syncOpenCase workspaceSlug integrations kase) fun _ => pure ()

/-- One workspace of `runTicketStatusSyncTick`. -/
def tickWorkspace (workspaceSlug : String) : CaseProg Unit := do
  let integrations ← ask (.findTicketIntegrations workspaceSlug true)
  if integrations.isEmpty then pure ()
  else
    let openCases ← ask (.findOpenCases workspaceSlug)
    openCases.foldlM (fun _ kase => tickOpenCase workspaceSlug integrations kase) ()

def runTicketStatusSyncTick : CaseProg Unit := do
  let workspaces ← ask .workspacesWithIntegrations
  workspaces.foldlM (fun _ workspaceSlug => tickWorkspace workspaceSlug) ()

/-- `slaAckBreachNotifiedAt` or `slaResolveBreachNotifiedAt` of a row. -/
def Case.breachNotifiedAt (kase : Case) : BreachKind → Option ℕ
  | .acknowledge => kase.slaAckBreachNotifiedAt
  | .resolve => kase.slaResolveBreachNotifiedAt

/-- `ackBreached` or `resolveBreached`. -/
def CaseSlaStatus.breached (status : CaseSlaStatus) : BreachKind → Bool
  | .acknowledge => status.ackBreached
  | .resolve => status.resolveBreached

/-- The stamp of a breach. -/
def stampData (kind : BreachKind) (now : ℕ) : CaseData :=
  match kind with
  | .acknowledge => { slaAckBreachNotifiedAt := some (some now) }
  | .resolve => { slaResolveBreachNotifiedAt := some (some now) }

/-- `action` of the audit event. -/
def BreachKind.action : BreachKind → String
  | .acknowledge => "case_sla_ack_breached"
  | .resolve => "case_sla_resolve_breached"

/-- One clock of a case (lines 95–103 and 106–114). -/
def checkBreach (workspaceSlug : String) (settings : CaseSlaSettings) (kase : Case)
    (status : CaseSlaStatus) (kind : BreachKind) : CaseProg Unit :=
  if status.breached kind && (kase.breachNotifiedAt kind).isNone then do
    let now ← ask .now
    ask (.updateCase kase.id (stampData kind now))
    ask (.addTimelineEntry kase.id "sla_breached")
    ask (.recordAuditEvent workspaceSlug (caseAudit kind.action "critical" kase.id))
    if settings.notifyOnBreach then dispatchCaseSlaBreach workspaceSlug kase kind else pure ()
  else pure ()

/-- One open case of `runCaseSlaMonitorTick`. -/
def monitorCase (workspaceSlug : String) (settings : CaseSlaSettings) (kase : Case) :
    CaseProg Unit := do
  let now ← ask .now
  match caseSlaStatus kase settings.thresholds now with
  | .error e => Prog.ret (.error e)
  | .ok status =>
    checkBreach workspaceSlug settings kase status .acknowledge
    checkBreach workspaceSlug settings kase status .resolve

/-- One workspace of `runCaseSlaMonitorTick`. -/
def monitorWorkspace (workspaceSlug : String) : CaseProg Unit := do
  let settings ← getCaseSlaSettings workspaceSlug
  if !settings.enabled then pure ()
  else
    let openCases ← ask (.findOpenCases workspaceSlug)
    openCases.foldlM (fun _ kase => monitorCase workspaceSlug settings kase) ()

def runCaseSlaMonitorTick : CaseProg Unit := do
  let workspaces ← ask .workspacesWithCases
  workspaces.foldlM (fun _ workspaceSlug => monitorWorkspace workspaceSlug) ()

/-! ## The tables -/

/-- The rows, and a clock that every answer may move on and nothing back. -/
structure CaseStore where
  cases : List Case := []
  integrations : List Integration := []
  slaSettings : List (String × CaseSlaSettings) := []
  clock : ℕ → ℕ
  clock_mono : Monotone clock
  tick : ℕ := 0

/-- `new Date()`. -/
def CaseStore.now (s : CaseStore) : ℕ :=
  s.clock s.tick

/-- `prisma.case.findUnique({ where: { id } })`. -/
def CaseStore.getCase (s : CaseStore) (id : String) : Option Case :=
  s.cases.find? fun row => row.id = id

/-- `prisma.case.findFirst({ where: { workspaceSlug, id } })`. -/
def CaseStore.findCase (s : CaseStore) (workspaceSlug id : String) : Option Case :=
  s.cases.find? fun row => row.workspaceSlug = workspaceSlug && row.id = id

/-- The open cases of a workspace. -/
def CaseStore.openCases (s : CaseStore) (workspaceSlug : String) : List Case :=
  s.cases.filter fun row => row.workspaceSlug = workspaceSlug && row.status.isOpen

/-- The open cases of a policy and a device, or those that are not. -/
def CaseStore.casesOfPolicy (s : CaseStore) (workspaceSlug policyId deviceId : String)
    (isOpen : Bool) : List Case :=
  s.cases.filter fun row => row.workspaceSlug = workspaceSlug && row.policyId = some policyId &&
    row.deviceId = some deviceId && row.status.isOpen = isOpen

/-- The open cases of a violation. -/
def CaseStore.casesOfViolation (s : CaseStore) (workspaceSlug violationId : String) : List Case :=
  (s.openCases workspaceSlug).filter fun row => row.violationIds.contains violationId

/-- The Jira and ServiceNow integrations of a workspace. -/
def CaseStore.ticketIntegrations (s : CaseStore) (workspaceSlug : String) (enabledOnly : Bool) :
    List Integration :=
  s.integrations.filter fun i =>
    i.workspaceSlug = workspaceSlug && i.type.isTicketing && (i.enabled || !enabledOnly)

/-- `findFirst` finds one of the rows that are asked for, where there is one. -/
def FoundAmong (rows : List Case) (found : Option Case) : Prop :=
  match found with
  | none => rows = []
  | some row => row ∈ rows

/-- Queries answer what is stored; a row that is created has a new id, and one
that is updated has to be there. -/
def CaseStore.may (s : CaseStore) (c : CaseCall) (r : Except ServiceError (CaseCall.Answer c)) :
    Prop :=
  match (⟨c, r⟩ : CaseMove) with
  | ⟨.now, .ok now⟩ => now = s.now
  | ⟨.now, .error _⟩ => False
  | ⟨.findCase slug id, .ok found⟩ => found = s.findCase slug id
  | ⟨.getCase id, .ok found⟩ => found = s.getCase id
  | ⟨.findOpenCases slug, .ok found⟩ => found = s.openCases slug
  | ⟨.findCaseOfPolicy slug policyId deviceId isOpen, .ok found⟩ =>
    FoundAmong (s.casesOfPolicy slug policyId deviceId isOpen) found ∧
      (isOpen = false → ∀ kase, found = some kase →
        ∀ row ∈ s.casesOfPolicy slug policyId deviceId isOpen, row.updatedAt ≤ kase.updatedAt)
  | ⟨.findOpenCaseOfViolation slug violationId, .ok found⟩ =>
    FoundAmong (s.casesOfViolation slug violationId) found
  | ⟨.createCase data, .ok kase⟩ => ∃ id, (∀ row ∈ s.cases, row.id ≠ id) ∧ kase = data.row id s.now
  | ⟨.updateCase id _, .ok _⟩ => ∃ row ∈ s.cases, row.id = id
  | ⟨.findSlaSettings slug, .ok found⟩ => found = s.slaSettings.lookup slug
  | ⟨.workspacesWithCases, .ok found⟩ =>
    ∀ slug, slug ∈ found ↔ ∃ row ∈ s.cases, row.workspaceSlug = slug
  | ⟨.workspacesWithIntegrations, .ok found⟩ =>
    ∀ slug, slug ∈ found ↔ ∃ i ∈ s.integrations, i.workspaceSlug = slug
  | ⟨.findIntegrations slug, .ok found⟩ =>
    found = s.integrations.filter fun i => i.workspaceSlug = slug
  | ⟨.findTicketIntegrations slug enabledOnly, .ok found⟩ =>
    found = s.ticketIntegrations slug enabledOnly
  | ⟨.createTicket _ type _, .ok ref⟩ => ref.type = type ∧ ref.remoteResolved = false
  | _ => True

/-- The rows after an answered call. -/
def CaseStore.casesNext (s : CaseStore) (e : CaseMove) : List Case :=
  match e with
  | ⟨.createCase _, .ok kase⟩ => s.cases ++ [kase]
  | ⟨.updateCase id data, .ok _⟩ =>
    s.cases.map fun row => if row.id = id then data.apply row s.now else row
  | _ => s.cases

/-- What an answered call leaves. -/
def CaseStore.next (s : CaseStore) (c : CaseCall) (r : Except ServiceError (CaseCall.Answer c)) :
    CaseStore :=
  { s with
    cases := s.casesNext ⟨c, r⟩
    tick := s.tick + 1 }

/-- The tables as the functions see them. -/
def caseWorld : World caseSig ServiceError CaseStore :=
  ⟨CaseStore.may, CaseStore.next⟩

/-! ## Requests -/

/-- What is asked for. The pass sends what a violation or a recovery calls for
(compliance.service.ts, lines 880–886). -/
inductive CaseTask
  | create (workspaceSlug : String) (payload : CaseCreatePayload) (authorization : Option String)
  | trigger (workspaceSlug triggerName runId caseSeverity : String)
      (matchedDevice : Option CaseDeviceRef)
  | update (workspaceSlug caseId : String) (payload : CaseUpdatePayload)
      (authorization : Option String)
  | bulkUpdate (workspaceSlug : String) (payload : CaseBulkUpdatePayload)
      (authorization : Option String)
  | violation (workspaceSlug : String) (policy : CasePolicyRef) (device : CaseDeviceRef)
      (violationId : String)
  | recovery (workspaceSlug : String) (violationId : Option String) (autoResolve : Bool)
  | syncTickets (workspaceSlug caseId : String)
  | syncTick
  | slaTick
  | retry (workspaceSlug caseId : String)
  | addNote (workspaceSlug caseId text : String)
  | enrich (workspaceSlug caseId value : String) (forceRefresh : Bool)
  deriving DecidableEq

/-- `try { await dispatchAndAttachCaseEvent(…) } catch { console.warn(…) }`, where
there is something to send. -/
def dispatchNotify (workspaceSlug caseId : String) (event : Option CaseEvent) : CaseProg Unit :=
  forSome event fun event =>
    tryCatchThe ServiceError (dispatchAndAttachCaseEvent workspaceSlug caseId event)
      fun _ => pure ()

/-- What a task runs. -/
def CaseTask.body (rt : TextRuntime) : CaseTask → CaseProg Unit
  | .create workspaceSlug payload authorization => do
    let _ ← createCase rt workspaceSlug payload authorization
  | .trigger workspaceSlug triggerName runId caseSeverity matchedDevice => do
    let _ ← openCaseForTrigger workspaceSlug triggerName runId caseSeverity matchedDevice
  | .update workspaceSlug caseId payload authorization => do
    let _ ← updateCase rt workspaceSlug caseId payload authorization
  | .bulkUpdate workspaceSlug payload authorization => do
    let _ ← bulkUpdateCases rt workspaceSlug payload authorization
  | .violation workspaceSlug policy device violationId => do
    let opened ← upsertCaseForViolation workspaceSlug policy device violationId
    dispatchNotify workspaceSlug opened.1 opened.2
  | .recovery workspaceSlug violationId autoResolve => do
    let recovered ← markCaseRecovered workspaceSlug violationId autoResolve
    forSome recovered fun kase => dispatchNotify workspaceSlug kase.1 kase.2
  | .syncTickets workspaceSlug caseId => do
    let _ ← syncCaseTicketStatus workspaceSlug caseId
  | .syncTick => runTicketStatusSyncTick
  | .slaTick => runCaseSlaMonitorTick
  | .retry workspaceSlug caseId => do
    let _ ← retryCaseIntegrations workspaceSlug caseId
  | .addNote workspaceSlug caseId text => do
    let _ ← addCaseNote rt workspaceSlug caseId text
  | .enrich workspaceSlug caseId value forceRefresh => do
    let _ ← enrichCase rt workspaceSlug caseId value forceRefresh

/-- The tasks over the tables. -/
def caseSystem (rt : TextRuntime) : System caseSig ServiceError CaseStore CaseTask where
  world := caseWorld
  body := CaseTask.body rt
  starts _ _ := []

/-- A label of a run. -/
abbrev CaseLabel := Label caseSig ServiceError CaseTask

/-- A task that was run to its end. -/
abbrev CaseTurn := Turn caseSig ServiceError CaseStore CaseTask

/-! ## What a call changes -/

section Rows

variable {s : CaseStore} {e : CaseMove} {row row' : Case}

theorem now_next (s : CaseStore) (e : CaseMove) : s.now ≤ (s.next e.call e.answer).now :=
  s.clock_mono (Nat.le_succ s.tick)

/-- **Step lemma**: a row after a call was there before and is not updated, or is
what an update of it left, or has been created. -/
theorem rows_next (h : row' ∈ (s.next e.call e.answer).cases) :
    (row' ∈ s.cases ∧ ∀ data, e ≠ ⟨.updateCase row'.id data, .ok ()⟩) ∨
    (∃ row ∈ s.cases, ∃ data, e = ⟨.updateCase row.id data, .ok ()⟩ ∧
      row' = data.apply row s.now) ∨ ∃ data, e = ⟨.createCase data, .ok row'⟩ := by
  have hrow : row' ∈ s.casesNext e := h
  unfold CaseStore.casesNext at hrow
  split at hrow
  · next data kase =>
    rcases mem_append.mp hrow with hold | hnew
    · exact .inl ⟨hold, fun data h => by cases h⟩
    · exact .inr (.inr ⟨data, by rw [mem_singleton.mp hnew]⟩)
  · next id data u =>
    obtain ⟨row, hmem, hrow'⟩ := mem_map.mp hrow
    by_cases hid : row.id = id
    · rw [if_pos hid] at hrow'
      exact .inr (.inl ⟨row, hmem, data, by rw [hid], hrow'.symm⟩)
    · rw [if_neg hid] at hrow'
      subst hrow'
      refine .inl ⟨hmem, fun data h => hid ?_⟩
      cases h
      rfl
  · next hupdate => exact .inl ⟨hrow, fun data h => hupdate _ _ _ h⟩

/-- A call that neither creates nor updates leaves the rows. -/
def CaseCall.reads : CaseCall → Bool
  | .createCase _ | .updateCase .. => false
  | _ => true

theorem cases_next (h : e.call.reads = true) : (s.next e.call e.answer).cases = s.cases := by
  obtain ⟨c, r⟩ := e
  cases c with
  | createCase data => cases h
  | updateCase id data => cases h
  | _ => cases r <;> rfl

@[simp] theorem apply_id (data : CaseData) (row : Case) (now : ℕ) :
    (data.apply row now).id = row.id := rfl

@[simp] theorem apply_workspaceSlug (data : CaseData) (row : Case) (now : ℕ) :
    (data.apply row now).workspaceSlug = row.workspaceSlug := rfl

/-- The ids of the rows are different. -/
def CaseStore.Unique (s : CaseStore) : Prop :=
  (s.cases.map Case.id).Nodup

theorem unique_next (h : s.Unique) (hmay : s.may e.call e.answer) :
    (s.next e.call e.answer).Unique := by
  obtain ⟨c, r⟩ := e
  by_cases hreads : c.reads = true
  · unfold CaseStore.Unique
    rw [cases_next (e := ⟨c, r⟩) hreads]
    exact h
  · cases c with
    | createCase data =>
      cases r with
      | error e => exact h
      | ok kase =>
        obtain ⟨id, hfresh, rfl⟩ := hmay
        show ((s.cases ++ [data.row id s.now]).map Case.id).Nodup
        rw [map_append, nodup_append]
        refine ⟨h, nodup_singleton _, fun a ha b hb => ?_⟩
        obtain ⟨row, hrow, rfl⟩ := mem_map.mp ha
        rw [mem_singleton.mp hb]
        exact hfresh row hrow
    | updateCase id data =>
      cases r with
      | error e => exact h
      | ok u =>
        show ((s.cases.map fun row => if row.id = id then data.apply row s.now else row).map
          Case.id).Nodup
        rw [map_map]
        have hids : (Case.id ∘ fun row => if row.id = id then data.apply row s.now else row) =
            Case.id := by
          funext row
          rw [Function.comp_apply]
          split_ifs <;> rfl
        rw [hids]
        exact h
    | _ => exact absurd rfl hreads

theorem CaseStore.Unique.eq (h : s.Unique) (hrow : row ∈ s.cases) (hrow' : row' ∈ s.cases)
    (hid : row.id = row'.id) : row = row' :=
  inj_on_of_nodup_map h hrow hrow' hid

theorem mem_of_findCase {slug id : String} (h : s.findCase slug id = some row) :
    row ∈ s.cases ∧ row.workspaceSlug = slug ∧ row.id = id := by
  have hfound := find?_some h
  rw [Bool.and_eq_true, decide_eq_true_eq, decide_eq_true_eq] at hfound
  exact ⟨mem_of_find?_eq_some h, hfound.1, hfound.2⟩

/-- A row is still there after a call, as it was or as an update has left it. -/
theorem exists_next (h : row ∈ s.cases) (e : CaseMove) :
    ∃ row' ∈ (s.next e.call e.answer).cases, row' = row ∨
      ∃ data, e = ⟨.updateCase row.id data, .ok ()⟩ ∧ row' = data.apply row s.now := by
  obtain ⟨c, r⟩ := e
  by_cases hreads : c.reads = true
  · exact ⟨row, (cases_next (e := ⟨c, r⟩) hreads).symm ▸ h, .inl rfl⟩
  · cases c with
    | createCase data =>
      cases r with
      | error e => exact ⟨row, h, .inl rfl⟩
      | ok kase => exact ⟨row, mem_append_left _ h, .inl rfl⟩
    | updateCase id data =>
      cases r with
      | error e => exact ⟨row, h, .inl rfl⟩
      | ok u =>
        refine ⟨_, mem_map_of_mem h, ?_⟩
        by_cases hid : row.id = id
        · exact .inr ⟨data, by rw [hid], if_pos hid⟩
        · exact .inl (if_neg hid)
    | _ => exact absurd rfl hreads

theorem now_after (s : CaseStore) (es : List CaseMove) : s.now ≤ (caseWorld.after s es).now := by
  induction es generalizing s with
  | nil => exact le_rfl
  | cons e es ih => exact (now_next s e).trans (ih _)

theorem workspaceSlug_after (h : row ∈ s.cases) (es : List CaseMove) :
    ∃ row' ∈ (caseWorld.after s es).cases, row'.id = row.id ∧
      row'.workspaceSlug = row.workspaceSlug := by
  induction es generalizing s row with
  | nil => exact ⟨row, h, rfl, rfl⟩
  | cons e es ih =>
    obtain ⟨row', hrow', hkept⟩ := exists_next h e
    obtain ⟨row'', hrow'', hid, hslug⟩ := ih (s := s.next e.call e.answer) hrow'
    rcases hkept with rfl | ⟨data, -, rfl⟩ <;> exact ⟨row'', hrow'', hid, hslug⟩

end Rows

/-! ## Runs -/

/-- The store after some labels of a run. -/
def storeAfter (s : CaseStore) (tr : List CaseLabel) : CaseStore :=
  caseWorld.after s (tr.map Label.event)

section Runs

variable {rt : TextRuntime} {cond : List CaseLabel → CaseStore → CaseLabel → Prop} {s : CaseStore}
  {ts : List CaseTask} {tr pre post : List CaseLabel} {l : CaseLabel}
  {cfg : Config caseSig ServiceError CaseStore CaseTask}

theorem storeAfter_append (s : CaseStore) (tr tr' : List CaseLabel) :
    storeAfter s (tr ++ tr') = storeAfter (storeAfter s tr) tr' := by
  rw [storeAfter, map_append, World.after_append]
  rfl

section

variable (h : Run (caseSystem rt) cond ((caseSystem rt).launch s ts) tr cfg)
include h

theorem unique_of_run
    (hunique : s.Unique) : cfg.store.Unique := by
  induction h with
  | nil => exact hunique
  | snoc _ hstep _ ih =>
    rw [hstep.store_eq]
    exact unique_next ih hstep.may

theorem before_label
    (hunique : s.Unique) (htr : tr = pre ++ l :: post) :
    (storeAfter s pre).Unique ∧ (storeAfter s pre).may l.event.call l.event.answer ∧
      cond pre (storeAfter s pre) l := by
  obtain ⟨cfg₁, cfg₂, hrun, hstep, hcond, -⟩ := h.step_of_append htr
  have hstore : cfg₁.store = storeAfter s pre := hrun.store_eq
  exact ⟨hstore ▸ unique_of_run hrun hunique, hstore ▸ hstep.may, hstore ▸ hcond⟩

theorem label_of_mem_past
    (hunique : s.Unique) (htr : tr = pre ++ l :: post) {e : CaseMove} (he : e ∈ l.past) :
    ∃ before l' after, pre = before ++ l' :: after ∧ l'.event = e ∧
      (storeAfter s before).may e.call e.answer := by
  obtain ⟨before, l', after, rfl, rfl⟩ := h.label_of_past htr he
  rw [append_assoc] at htr
  exact ⟨before, l', after, rfl, rfl, (before_label h hunique htr).2.1⟩

end

end Runs

/-! ## Answers -/

/-- Texts without indicators. -/
def plainText : TextRuntime where
  isKnownMitreTechnique _ := true
  extractIocCandidates _ := []
  toLowerCase := id

/-- A row, if there is no more than one. -/
def onlyRow : List Case → Except ServiceError (Option Case)
  | [] => .ok none
  | [row] => .ok (some row)
  | _ => .error (.other "")

/-- Answers that the tables may give, with remote systems that are up and tickets
that are done. -/
def CaseStore.reply (s : CaseStore) : (c : CaseCall) → Except ServiceError (CaseCall.Answer c)
  | .now => .ok s.now
  | .findCase slug id => .ok (s.findCase slug id)
  | .getCase id => .ok (s.getCase id)
  | .findOpenCases slug => .ok (s.openCases slug)
  | .findCaseOfPolicy slug policyId deviceId isOpen =>
    onlyRow (s.casesOfPolicy slug policyId deviceId isOpen)
  | .findOpenCaseOfViolation slug violationId => onlyRow (s.casesOfViolation slug violationId)
  | .createCase data =>
    if ∀ row ∈ s.cases, row.id ≠ "c1" then .ok (data.row "c1" s.now) else .error (.other "")
  | .updateCase id _ => if ∃ row ∈ s.cases, row.id = id then .ok () else .error (.other "")
  | .findSlaSettings slug => .ok (s.slaSettings.lookup slug)
  | .workspacesWithCases => .ok (s.cases.map Case.workspaceSlug).dedup
  | .workspacesWithIntegrations => .ok (s.integrations.map Integration.workspaceSlug).dedup
  | .findIntegrations slug => .ok (s.integrations.filter fun i => i.workspaceSlug = slug)
  | .findTicketIntegrations slug enabledOnly => .ok (s.ticketIntegrations slug enabledOnly)
  | .createTicket _ type _ => .ok { type := type, id := "SEC-1", url := "" }
  | .fetchTicketStatus .. => .ok ⟨"Done", true⟩
  | .countThreatIntelProviders _ => .ok 1
  | .runThreatIntelLookup _ ioc => .ok [⟨ioc, ioc, ""⟩]
  | .tryCaseAutorun .. => .ok none
  | .addTimelineEntry .. | .createNote .. | .recordAuditEvent .. | .updateIntegration ..
  | .sendChatNotification .. | .sendGenericWebhook .. | .sendPagingEvent .. | .closeTicket ..
  | .sendAlertEmail .. | .removeComplianceMarkers .. => .ok ()

theorem may_reply (s : CaseStore) (c : CaseCall) : s.may c (s.reply c) := by
  cases c with
  | findCaseOfPolicy slug policyId deviceId isOpen =>
    show s.may (.findCaseOfPolicy slug policyId deviceId isOpen)
      (onlyRow (s.casesOfPolicy slug policyId deviceId isOpen))
    rcases hrows : s.casesOfPolicy slug policyId deviceId isOpen with _ | ⟨row, _ | ⟨row', rows⟩⟩
    · exact And.intro hrows fun _ kase h => by cases h
    · have hmem : ∀ r, r ∈ s.casesOfPolicy slug policyId deviceId isOpen ↔ r = row := fun r => by
        rw [hrows, mem_singleton]
      refine And.intro ((hmem row).mpr rfl) fun _ kase h row' hrow' => ?_
      rw [(hmem row').mp hrow', Option.some.inj h]
    · trivial
  | findOpenCaseOfViolation slug violationId =>
    show s.may (.findOpenCaseOfViolation slug violationId)
      (onlyRow (s.casesOfViolation slug violationId))
    rcases hrows : s.casesOfViolation slug violationId with _ | ⟨row, _ | ⟨row', rows⟩⟩
    · exact hrows
    · show row ∈ s.casesOfViolation slug violationId
      rw [hrows]
      exact mem_singleton_self row
    · trivial
  | createCase data =>
    show s.may (.createCase data) (if _ then _ else _)
    by_cases hfresh : ∀ row ∈ s.cases, row.id ≠ "c1"
    · rw [if_pos hfresh]
      exact Exists.intro "c1" ⟨hfresh, rfl⟩
    · rw [if_neg hfresh]
      trivial
  | updateCase id data =>
    show s.may (.updateCase id data) (if _ then _ else _)
    by_cases hrow : ∃ row ∈ s.cases, row.id = id
    · rw [if_pos hrow]
      exact hrow
    · rw [if_neg hrow]
      trivial
  | workspacesWithCases => exact fun slug => mem_dedup.trans mem_map
  | workspacesWithIntegrations => exact fun slug => mem_dedup.trans mem_map
  | createTicket => exact And.intro rfl rfl
  | now | findCase | getCase | findOpenCases | findSlaSettings | findIntegrations
  | findTicketIntegrations => exact rfl
  | _ => trivial

end AppliverySoar.Cases
