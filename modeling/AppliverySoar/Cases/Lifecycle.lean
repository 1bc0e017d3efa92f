import AppliverySoar.Cases.Writes

/-!
# The lifecycle of a case

`closedAt`, `acknowledgedAt` and the SLA fields follow the status through every
sequence of requests and jobs, with one exception: `updateCase` first
acknowledges a case that is moved to "investigating" and then, where the case
was closed, takes the acknowledgement back, so that a case that is reopened into
"investigating" is under investigation and not acknowledged.

Results:
* `lawful_of_legal`: every update of every task is an `Edit` of its row.
* `consistent_of_attentive`: in every sequence `closedAt` agrees with the status
  and reopening restarts the clocks; if no case is reopened into
  "investigating", every case under investigation is acknowledged.
* `unacknowledged_of_reopened`: that condition is the exact one.
* `investigated_unacknowledged`: a case that is reopened so.
-/

namespace AppliverySoar.Cases

open Async Prog Access Compliance Workflows List CaseCall

/-! ## Rows -/

/-- `closedAt` is set exactly when the status is not an open one. -/
def Case.ClosedAgrees (row : Case) : Prop :=
  row.closedAt.isSome = !row.status.isOpen

/-- A case under investigation has been acknowledged. -/
def Case.Acknowledged (row : Case) : Prop :=
  row.status = .investigating → row.acknowledgedAt.isSome

/-- A case that is open again has a new clock, started between `start` and `now`,
and no breach stamps. -/
def Restarts (start now : ℕ) (row row' : Case) : Prop :=
  row.status.isOpen = false → row'.status.isOpen = true →
    (start ≤ row'.slaClockStartedAt ∧ row'.slaClockStartedAt ≤ now) ∧
      row'.slaAckBreachNotifiedAt = none ∧ row'.slaResolveBreachNotifiedAt = none

/-- What an update makes of a row, where `asked` is the status that was asked
for. -/
structure Edit (asked : Option String) (start now : ℕ) (row row' : Case) : Prop where
  closedAt : row.ClosedAgrees → row'.ClosedAgrees
  restarts : Restarts start now row row'
  acknowledged : row.Acknowledged → row'.Acknowledged ∨
    asked = some CaseStatus.investigating.text ∧ row.status.isOpen = false

section Data

variable {asked : Option String} {start now : ℕ} {row : Case} {data : CaseData}

theorem edit_of_keepsStatus (hack : data.acknowledgedAt = none) (hstatus : data.KeepsStatus) :
    Edit asked start now row (data.apply row now) := by
  have hs : (data.apply row now).status = row.status := by simp [CaseData.apply, hstatus.status]
  have hc : (data.apply row now).closedAt = row.closedAt := by
    simp [CaseData.apply, hstatus.closedAt]
  have ha : (data.apply row now).acknowledgedAt = row.acknowledgedAt := by
    simp [CaseData.apply, hack]
  refine ⟨fun h => ?_, fun hclosed hopen => ?_, fun h => .inl ?_⟩
  · rw [Case.ClosedAgrees, hs, hc]
    exact h
  · rw [hs, hclosed] at hopen
    cases hopen
  · rw [Case.Acknowledged, hs, ha]
    exact h

theorem edit_of_resolves (hresolves : data.Resolves) :
    Edit asked start now row (data.apply row now) := by
  obtain ⟨hstatus, time, hclosedAt⟩ := hresolves
  have hs : (data.apply row now).status = .resolved := by simp [CaseData.apply, hstatus]
  refine ⟨fun _ => ?_, fun _ hopen => ?_, fun _ => .inl fun h => ?_⟩
  · rw [Case.ClosedAgrees, hs]
    simp [CaseData.apply, hclosedAt, CaseStatus.isOpen]
  · rw [hs] at hopen
    cases hopen
  · rw [hs] at h
    cases h

theorem edit_of_reopenData {time : ℕ} (hstart : start ≤ time) (hnow : time ≤ now)
    (policy : CasePolicyRef) (violationId : String) :
    Edit asked start now row ((reopenData policy violationId time).apply row now) := by
  refine ⟨fun _ => rfl, fun _ _ => ⟨⟨hstart, hnow⟩, rfl, rfl⟩, fun _ => .inl fun h => ?_⟩
  cases h

theorem row_closedAgrees (data : CaseCreate) (id : String) (now : ℕ) :
    (data.row id now).ClosedAgrees := rfl

theorem row_acknowledged (data : CaseCreate) (id : String) (now : ℕ) :
    (data.row id now).Acknowledged := fun h => by cases h

end Data

/-! ## What an administrator asks for -/

section Payload

variable {payload : CaseUpdatePayload} {kase : Case} {start time now : ℕ} {rt : TextRuntime}

variable {status : CaseStatus}

theorem asked_of_newStatus (h : payload.newStatus kase = some status) :
    payload.status = some status.text := by
  obtain ⟨text, htext, hparse⟩ := Option.bind_eq_some_iff.mp h
  rw [(Option.filter_eq_some_iff.mp htext).1, CaseStatus.parse_eq_some.mp hparse]

/-- A status that is written and neither closes nor reopens the case is as open
as the one before. -/
theorem isOpen_of_newStatus (h : payload.newStatus kase = some status)
    (hcloses : payload.closes kase = false) (hreopens : payload.reopens kase = false) :
    status.isOpen = kase.status.isOpen := by
  simp only [CaseUpdatePayload.closes, CaseUpdatePayload.reopens, h, Option.any_some] at hcloses hreopens
  revert hcloses hreopens
  cases kase.status.isOpen <;> cases status.isOpen <;> simp

/-- **Step lemma** of `updateCase`. -/
theorem edit_of_payload (hstart : start ≤ time) (hnow : time ≤ now) :
    Edit payload.status start now kase ((payload.data kase rt time).apply kase now) := by
  set row' := (payload.data kase rt time).apply kase now with hrow'
  have hs : row'.status = (payload.newStatus kase).getD kase.status := rfl
  have hc : row'.closedAt = (if payload.closes kase then some (some time)
      else if payload.reopens kase then some none else none).getD kase.closedAt := rfl
  have ha : row'.acknowledgedAt = (payload.newAcknowledgedAt kase time).getD kase.acknowledgedAt :=
    rfl
  refine ⟨fun h => ?_, fun hclosed hopen => ?_, fun h => ?_⟩
  · unfold Case.ClosedAgrees at h ⊢
    rw [hs, hc]
    by_cases hcloses : payload.closes kase = true
    · obtain ⟨-, status, hstatus, hclosed⟩ := by
        simpa [CaseUpdatePayload.closes, Option.any_eq_true] using hcloses
      simp [hcloses, hstatus, hclosed]
    · by_cases hreopens : payload.reopens kase = true
      · obtain ⟨-, status, hstatus, hopen⟩ := by
          simpa [CaseUpdatePayload.reopens, Option.any_eq_true] using hreopens
        simp [hcloses, hreopens, hstatus, hopen]
      · rw [if_neg hcloses, if_neg hreopens]
        cases hstatus : payload.newStatus kase with
        | none => exact h
        | some status =>
          rw [Option.getD_some, isOpen_of_newStatus hstatus ((Bool.not_eq_true _).mp hcloses)
            ((Bool.not_eq_true _).mp hreopens)]
          exact h
  · have hreopens : payload.reopens kase = true := by
      rw [hs] at hopen
      unfold CaseUpdatePayload.reopens
      cases hstatus : payload.newStatus kase with
      | none =>
        rw [hstatus, Option.getD_none, hclosed] at hopen
        cases hopen
      | some status =>
        rw [hstatus, Option.getD_some] at hopen
        rw [hclosed, Option.any_some, hopen]
        rfl
    have hclock : row'.slaClockStartedAt = time := by
      simp [hrow', CaseData.apply, CaseUpdatePayload.data, hreopens]
    refine ⟨hclock ▸ ⟨hstart, hnow⟩, ?_, ?_⟩ <;>
      simp [hrow', CaseData.apply, CaseUpdatePayload.data, hreopens]
  · by_cases hreopens : payload.reopens kase = true
    · obtain ⟨hclosed, status, hstatus, hopen⟩ := by
        simpa [CaseUpdatePayload.reopens, Option.any_eq_true] using hreopens
      by_cases hinv : status = .investigating
      · exact .inr ⟨hinv ▸ asked_of_newStatus hstatus, hclosed⟩
      · refine .inl fun hs' => absurd ?_ hinv
        rw [hs, hstatus] at hs'
        exact hs'
    · refine .inl fun hs' => ?_
      rw [ha, CaseUpdatePayload.newAcknowledgedAt, if_neg hreopens]
      split_ifs with hnew
      · rfl
      · rw [Option.getD_none]
        -- not acknowledged by this update: it was under investigation before, or acknowledged
        by_contra hnone
        rw [Option.isSome_iff_ne_none, not_not] at hnone
        refine hnew ?_
        cases hstatus : payload.newStatus kase with
        | none =>
          rw [hs, hstatus] at hs'
          have := h hs'
          rw [hnone] at this
          cases this
        | some status =>
          rw [hs, hstatus, Option.getD_some] at hs'
          simp [hnone, hs']

/-- An update that asks for "investigating" and finds its case closed leaves it
under investigation and not acknowledged. -/
theorem unacknowledged_of_reopened (hasked : payload.status = some CaseStatus.investigating.text)
    (hclosed : kase.status.isOpen = false) :
    ¬((payload.data kase rt time).apply kase now).Acknowledged := by
  have hstatus : payload.newStatus kase = some .investigating := by
    have hne : CaseStatus.investigating.text ≠ kase.status.text := by
      revert hclosed
      cases kase.status <;> decide
    rw [CaseUpdatePayload.newStatus, CaseUpdatePayload.newStatusText, hasked, Option.filter_some,
      if_pos (decide_eq_true hne)]
    exact CaseStatus.parse_text _
  have hreopens : payload.reopens kase = true := by
    rw [CaseUpdatePayload.reopens, hclosed, hstatus]
    rfl
  intro hack
  have hsome := hack (by simp [CaseData.apply, CaseUpdatePayload.data, hstatus])
  simp [CaseData.apply, CaseUpdatePayload.data, CaseUpdatePayload.newAcknowledgedAt,
    hreopens] at hsome

end Payload

/-! ## Tasks -/

/-- The status that an administrator asks for. -/
def CaseTask.asked : CaseTask → Option String
  | .update _ _ payload _ => payload.status
  | .bulkUpdate _ payload _ => payload.status
  | _ => none

/-- An update is an edit of every row that it is for. -/
def Lawful (asked : Option String) (start : ℕ) (s : CaseStore) (c : CaseCall) : Prop :=
  match c with
  | .updateCase id data =>
    ∀ row ∈ s.cases, row.id = id → Edit asked start s.now row (data.apply row s.now)
  | _ => True

/-- The tables at a time after `start`. -/
structure Since (start : ℕ) (s : CaseStore) : Prop where
  start_le : start ≤ s.now
  unique : s.Unique

section Tasks

variable {asked : Option String} {start : ℕ} {s : CaseStore} (rt : TextRuntime)

theorem Since.next (h : Since start s) {c : CaseCall} {r : Except ServiceError c.Answer}
    (hmay : caseWorld.may s c r) : Since start (caseWorld.next s c r) :=
  ⟨h.start_le.trans (now_next s ⟨c, r⟩), unique_next (e := ⟨c, r⟩) h.unique hmay⟩

theorem lawful_of_routine {c : CaseCall} (h : c.Routine) : Lawful asked start s c := by
  cases c with
  | updateCase id data =>
    rintro row - -
    rcases h.2 with hstatus | hresolves
    · exact edit_of_keepsStatus h.1.acknowledgedAt hstatus
    · exact edit_of_resolves hresolves
  | _ => trivial

theorem meets_routine {α : Type} {p : CaseProg α} (h : p.Calls Routine)
    (hs : Since start s) : p.Meets caseWorld (Lawful asked start) s fun _ => Since start :=
  h.meets_stable (fun _ _ _ => lawful_of_routine) (fun _ _ _ _ hmay hs => hs.next hmay) hs

theorem meets_checkEdits (kase : Case) (payload : CaseUpdatePayload)
    {time : ℕ} (hs : Since start s) (htime : time ≤ s.now) :
    (checkEdits rt kase payload).Meets caseWorld (Lawful asked start) s
      (post (fun _ s' => Since start s' ∧ s'.cases = s.cases ∧ time ≤ s'.now)
        fun _ s' => Since start s') := by
  refine ((calls_checkEdits rt kase payload).meets_stable
    (P := fun s' => Since start s' ∧ s'.cases = s.cases ∧ time ≤ s'.now)
    (fun _ _ _ h => lawful_of_routine (aside_of_reads h).routine)
    (fun s' c r hreads hmay h => ?_) ⟨hs, rfl, htime⟩).mono fun r s' h => ?_
  · exact ⟨h.1.next hmay, (cases_next (e := ⟨c, r⟩) hreads).trans h.2.1,
      h.2.2.trans (now_next s' ⟨c, r⟩)⟩
  · cases r with
    | error e => exact h.1
    | ok u => exact h

theorem meets_updateCase (slug caseId : String)
    (payload : CaseUpdatePayload) (auth : Option String) (hs : Since start s) :
    (updateCase rt slug caseId payload auth).Meets caseWorld
      (Lawful payload.status start) s fun _ => Since start := by
  refine Meets.call_bind trivial (fun e hmay => hs.next hmay) fun found hfound => ?_
  have hs₁ := hs.next hfound
  cases found with
  | none => exact hs₁
  | some kase =>
    obtain ⟨hmem, -, hid⟩ := mem_of_findCase (Eq.symm hfound)
    refine Meets.call_bind trivial (fun e hmay => hs₁.next hmay) fun time htime => ?_
    have hs₂ := hs₁.next htime
    have hnow : time = (caseWorld.next s (.findCase slug caseId) (.ok (some kase))).now :=
      htime
    refine Meets.bind (meets_checkEdits rt kase payload hs₂
      (hnow.le.trans (now_next _ ⟨_, _⟩))) fun _ s' hs' => ?_
    refine Meets.call_bind (fun row hrow hrowId => ?_) (fun e hmay => hs'.1.next hmay)
      fun _ hmay => ?_
    · -- the row that is written is the one that was read
      rw [hs'.2.1] at hrow
      obtain rfl := hs.unique.eq hrow hmem (hrowId.trans hid.symm)
      exact edit_of_payload (hs₁.start_le.trans hnow.ge) hs'.2.2
    · refine meets_routine ?_ (hs'.1.next hmay)
      refine Calls.bind (calls_ask trivial) fun _ => ?_
      refine Calls.bind (calls_forSome (fun event => ?_) _) fun _ =>
        calls_routine_of_reads (calls_showCase _ _)
      exact ((calls_dispatchAndAttachCaseEvent _ _ _).widen fun _ => CaseCall.Aside.routine).bind
        fun _ => calls_routine_of_reads (calls_removeMarkers _ _ _ _)

theorem meets_bulkUpdateCases (slug : String)
    (payload : CaseBulkUpdatePayload) (auth : Option String) (hs : Since start s) :
    (bulkUpdateCases rt slug payload auth).Meets caseWorld
      (Lawful payload.status start) s fun _ => Since start := by
  unfold bulkUpdateCases
  split_ifs
  · exact hs
  · refine (Meets.foldlM (fun _ _ => Since start) (E := fun _ => Since start) hs
      fun done caseId todo _ acc s' hs' => ?_).mono fun r s' h => by cases r <;> exact h
    refine Meets.bind (R := fun _ => Since start)
      (Meets.attempt (meets_updateCase rt slug caseId
        { status := payload.status, assignee := payload.assignee } auth hs'))
      fun result s'' hs'' => ?_
    cases result with
    | ok shown => exact hs''
    | error e => cases e <;> exact hs''

theorem meets_upsertCaseForViolation (slug : String) (policy : CasePolicyRef)
    (device : CaseDeviceRef) (violationId : String) (hs : Since start s) :
    (upsertCaseForViolation slug policy device violationId).Meets caseWorld
      (Lawful asked start) s fun _ => Since start := by
  refine Meets.call_bind trivial (fun e hmay => hs.next hmay) fun time htime => ?_
  have htime' : time = s.now := htime
  have hs₁ := hs.next htime
  refine Meets.call_bind trivial (fun e hmay => hs₁.next hmay) fun existing hexisting => ?_
  have hs₂ := hs₁.next hexisting
  cases existing with
  | some existing =>
    refine meets_routine ?_ hs₂
    refine (calls_ask ⟨⟨rfl, rfl, rfl, rfl, rfl⟩, .inl ⟨rfl, rfl⟩⟩).bind fun _ => ?_
    exact (calls_ask trivial).bind fun _ => calls_ret _
  | none =>
    refine Meets.call_bind trivial (fun e hmay => hs₂.next hmay) fun closedMatch hmatch => ?_
    have hs₃ := hs₂.next hmatch
    cases closedMatch with
    | none =>
      refine meets_routine ?_ hs₃
      exact (calls_ask trivial).bind fun _ => (calls_ask trivial).bind fun _ => calls_ret _
    | some closedMatch =>
      refine Meets.call_bind (fun row _ _ => ?_) (fun e hmay => hs₃.next hmay) fun _ hmay => ?_
      · refine edit_of_reopenData (htime' ▸ hs.start_le) ?_ policy violationId
        rw [htime']
        exact (now_next s ⟨_, _⟩).trans ((now_next _ ⟨_, _⟩).trans (now_next _ ⟨_, _⟩))
      · exact meets_routine ((calls_ask trivial).bind fun _ => calls_ret _) (hs₃.next hmay)

theorem CaseTask.meets_body (task : CaseTask) (hs : Since start s) :
    (task.body rt).Meets caseWorld (Lawful task.asked start) s fun _ => Since start := by
  have hvoid : ∀ {α : Type} {p : CaseProg α}, p.Calls Routine →
      (do let _ ← p : CaseProg Unit).Calls Routine :=
    fun h => h.bind fun _ => calls_ret _
  have haside : ∀ {α : Type} {p : CaseProg α}, p.Calls CaseCall.Aside → p.Calls Routine :=
    fun h => h.widen fun _ => CaseCall.Aside.routine
  cases task with
  | create slug payload authorization =>
    exact meets_routine (hvoid (calls_createCase rt _ _ _)) hs
  | trigger slug triggerName runId caseSeverity matchedDevice =>
    exact meets_routine (hvoid (calls_openCaseForTrigger _ _ _ _ _)) hs
  | update slug caseId payload authorization =>
    exact Meets.bind (R := fun _ => Since start) ((meets_updateCase rt _ _ _ _ hs).mono
      fun r _ h => by cases r <;> exact h) fun _ _ h => h
  | bulkUpdate slug payload authorization =>
    exact Meets.bind (R := fun _ => Since start) ((meets_bulkUpdateCases rt _ _ _ hs).mono
      fun r _ h => by cases r <;> exact h) fun _ _ h => h
  | violation slug policy device violationId =>
    refine Meets.bind (R := fun _ => Since start)
      ((meets_upsertCaseForViolation _ _ _ _ hs).mono fun r _ h => by cases r <;> exact h)
      fun opened _ hs' => meets_routine (haside (calls_dispatchNotify _ _ _)) hs'
  | recovery slug violationId autoResolve =>
    refine meets_routine ((calls_markCaseRecovered _ _ _).bind fun recovered => ?_) hs
    exact calls_forSome (fun kase => haside (calls_dispatchNotify _ _ _)) recovered
  | syncTickets slug caseId => exact meets_routine (hvoid (calls_syncCaseTicketStatus _ _)) hs
  | syncTick => exact meets_routine calls_runTicketStatusSyncTick hs
  | slaTick =>
    refine calls_runCaseSlaMonitorTick.meets_stable (fun s' c _ h => ?_)
      (fun _ _ _ _ hmay hs => hs.next hmay) hs
    rcases h with hreads | ⟨id, kind, time, rfl⟩
    · exact lawful_of_routine (aside_of_reads hreads).routine
    · exact fun row _ _ => by cases kind <;> exact edit_of_keepsStatus rfl ⟨rfl, rfl⟩
  | retry slug caseId => exact meets_routine (hvoid (haside (calls_retryCaseIntegrations _ _))) hs
  | addNote slug caseId text =>
    have hnote := haside (calls_addCaseNote rt slug caseId text)
    rw [CaseTask.body]
    generalize addCaseNote rt slug caseId text = note at hnote ⊢
    exact meets_routine (hvoid hnote) hs
  | enrich slug caseId value forceRefresh =>
    have henrich := haside (calls_enrichCase rt slug caseId value forceRefresh)
    rw [CaseTask.body]
    generalize enrichCase rt slug caseId value forceRefresh = enrichment at henrich ⊢
    exact meets_routine (hvoid henrich) hs

end Tasks

/-! ## Sequences -/

/-- Between two tasks settings and integrations may change, and time goes on. -/
def BetweenTasks (s s' : CaseStore) : Prop :=
  s'.cases = s.cases ∧ s.now ≤ s'.now

/-- No update that asks for "investigating" finds its case closed. -/
def Attentive (t : CaseTurn) : Prop :=
  t.task.asked = some CaseStatus.investigating.text →
    ∀ pre id data post, t.events = pre ++ ⟨.updateCase id data, .ok ()⟩ :: post →
      ∀ row ∈ (caseWorld.after t.before pre).cases, row.id = id → row.status.isOpen = true

/-- The states of a sequence that ends in `s`. -/
def Visits (ts : List CaseTurn) (s s' : CaseStore) : Prop :=
  s' = s ∨ ∃ t ∈ ts, ∃ pre post, t.events = pre ++ post ∧ s' = caseWorld.after t.before pre

/-- What holds of the rows; the last only where `attentive` does. -/
structure Sound (attentive : Prop) (s : CaseStore) : Prop where
  unique : s.Unique
  closedAt : ∀ row ∈ s.cases, row.ClosedAgrees
  acknowledged : attentive → ∀ row ∈ s.cases, row.Acknowledged

section Sequences

variable {rt : TextRuntime} {t : CaseTurn} {pre post : List CaseMove} {e : CaseMove}
  {attentive : Prop} {s : CaseStore} {asked : Option String} {start : ℕ}

theorem since_after (hs : Since start s) (haccepts : caseWorld.Accepts s pre) :
    Since start (caseWorld.after s pre) := by
  induction pre generalizing s with
  | nil => exact hs
  | cons e pre ih => exact ih (hs.next haccepts.1) haccepts.2

theorem lawful_of_legal (hlegal : t.Legal caseWorld (CaseTask.body rt)) (hunique : t.before.Unique)
    (hsplit : t.events = pre ++ e :: post) :
    Since t.before.now (caseWorld.after t.before pre) ∧
    caseWorld.may (caseWorld.after t.before pre) e.call e.answer ∧
    Lawful t.task.asked t.before.now (caseWorld.after t.before pre) e.call := by
  have hsince : Since t.before.now t.before := ⟨le_rfl, hunique⟩
  have haccepts := hsplit ▸ hlegal.accepted
  obtain ⟨hpre, hmay, -⟩ := World.accepts_append.mp haccepts
  exact ⟨since_after hsince hpre, hmay, (t.task.meets_body rt hsince).ok_of_append
    (hsplit ▸ hlegal.steps) haccepts⟩

/-- **Step lemma**: what an answered call leaves of the rows. -/
theorem Sound.next (h : Sound attentive s) (hmay : s.may e.call e.answer)
    (hlawful : Lawful asked start s e.call)
    (hopen : attentive → asked = some CaseStatus.investigating.text →
      ∀ id data, e = ⟨.updateCase id data, .ok ()⟩ → ∀ row ∈ s.cases, row.id = id →
        row.status.isOpen = true) : Sound attentive (s.next e.call e.answer) := by
  refine ⟨unique_next h.unique hmay, fun row' hrow' => ?_, fun hatt row' hrow' => ?_⟩ <;>
    rcases rows_next hrow' with ⟨hold, -⟩ | ⟨row, hrow, data, rfl, rfl⟩ | ⟨data, rfl⟩
  · exact h.closedAt row' hold
  · exact (hlawful row hrow rfl).closedAt (h.closedAt row hrow)
  · obtain ⟨id, -, rfl⟩ := hmay
    exact row_closedAgrees data id s.now
  · exact h.acknowledged hatt row' hold
  · rcases (hlawful row hrow rfl).acknowledged (h.acknowledged hatt row hrow) with hack |
      ⟨hasked, hclosed⟩
    · exact hack
    · rw [hopen hatt hasked row.id data rfl row hrow rfl] at hclosed
      cases hclosed
  · obtain ⟨id, -, rfl⟩ := hmay
    exact row_acknowledged data id s.now

theorem Sound.after (h : Sound attentive t.before) (hlegal : t.Legal caseWorld (CaseTask.body rt))
    (hatt : attentive → Attentive t) (hsplit : t.events = pre ++ post) :
    Sound attentive (caseWorld.after t.before pre) := by
  induction pre using reverseRecOn generalizing post with
  | nil => exact h
  | append_singleton pre e ih =>
    rw [append_assoc, singleton_append] at hsplit
    obtain ⟨-, hmay, hlawful⟩ := lawful_of_legal hlegal h.unique hsplit
    rw [World.after_append]
    exact (ih hsplit).next hmay hlawful fun ha hasked id data he row =>
      hatt ha hasked pre id data post (he ▸ hsplit) row

theorem restarts_next (hunique : s.Unique) (hmay : s.may e.call e.answer)
    (hlawful : Lawful asked start s e.call) {row row' : Case} (hrow : row ∈ s.cases)
    (hrow' : row' ∈ (s.next e.call e.answer).cases) (hid : row'.id = row.id) :
    Restarts start s.now row row' := by
  rcases rows_next hrow' with ⟨hold, -⟩ | ⟨old, hold, data, rfl, rfl⟩ | ⟨data, rfl⟩
  · obtain rfl := hunique.eq hold hrow hid
    intro hclosed hopen
    rw [hclosed] at hopen
    cases hopen
  · obtain rfl := hunique.eq hold hrow hid
    exact (hlawful old hold rfl).restarts
  · obtain ⟨id, hfresh, rfl⟩ := hmay
    exact absurd hid.symm (hfresh row hrow)

/-- In every sequence of tasks `closedAt` is set exactly when the status is not an
open one, and a case that is opened again has its clock restarted and no
breach stamps. If no update that asks for "investigating" finds its case
closed, every case under investigation has been acknowledged. -/
theorem consistent_of_attentive {rt : TextRuntime} {init s : CaseStore} {ts : List CaseTurn}
    (h : Sequence caseWorld (CaseTask.body rt) BetweenTasks init ts s) (hunique : init.Unique)
    (hinit : ∀ row ∈ init.cases, row.ClosedAgrees ∧ row.Acknowledged) :
    (∀ s', Visits ts s s' → ∀ row ∈ s'.cases, row.ClosedAgrees) ∧
    (∀ t ∈ ts, ∀ pre e post, t.events = pre ++ e :: post →
      ∀ row ∈ (caseWorld.after t.before pre).cases,
      ∀ row' ∈ (caseWorld.after t.before (pre ++ [e])).cases, row'.id = row.id →
        Restarts t.before.now (caseWorld.after t.before pre).now row row') ∧
    ((∀ t ∈ ts, Attentive t) → ∀ s', Visits ts s s' → ∀ row ∈ s'.cases, row.Acknowledged) := by
  have hinv := h.invariant (I := Sound (∀ t ∈ ts, Attentive t))
    ⟨hunique, fun row hrow => (hinit row hrow).1, fun _ row hrow => (hinit row hrow).2⟩
    (fun t ht hlegal hbefore =>
      hbefore.after hlegal (fun hall => hall t ht) (append_nil t.events).symm)
    (fun s s' hout hs => ⟨by rw [CaseStore.Unique, hout.1]; exact hs.unique,
      fun row hrow => hs.closedAt row (hout.1 ▸ hrow),
      fun hall row hrow => hs.acknowledged hall row (hout.1 ▸ hrow)⟩)
  have hvisits : ∀ s', Visits ts s s' → Sound (∀ t ∈ ts, Attentive t) s' := by
    rintro s' (rfl | ⟨t, ht, pre, post, hsplit, rfl⟩)
    · exact hinv.1
    · exact (hinv.2 t ht).after (h.legal ht) (fun hall => hall t ht) hsplit
  refine ⟨fun s' hs' => (hvisits s' hs').closedAt, ?_,
    fun hall s' hs' => (hvisits s' hs').acknowledged hall⟩
  intro t ht pre e post hsplit row hrow row' hrow' hid
  obtain ⟨hsince, hmay, hlawful⟩ := lawful_of_legal (h.legal ht) (hinv.2 t ht).unique hsplit
  rw [World.after_append] at hrow'
  exact restarts_next hsince.unique hmay hlawful hrow hrow' hid

end Sequences

/-! ## A case that is reopened -/

theorem attentive_of_open {t : CaseTurn} (h : ∀ n < t.events.length + 1,
    ∀ row ∈ (caseWorld.after t.before (t.events.take n)).cases, row.status.isOpen = true) :
    Attentive t := by
  intro _ pre id data post hsplit row hrow _
  have hpre : pre = t.events.take pre.length := by rw [hsplit, take_left]
  have hlen : pre.length < t.events.length + 1 := by
    rw [hsplit, length_append]
    omega
  exact h pre.length hlen row (hpre ▸ hrow)

/-- A deployment without cases. -/
def noCases : CaseStore where
  clock := id
  clock_mono := monotone_id

/-- A case is opened and gets the given statuses. -/
def statusTasks (statuses : List String) : List CaseTask :=
  .create "acme" { title := "Malware" } none ::
    statuses.map fun status => .update "acme" "c1" { status := some status } none

/-- The turns and what they leave. -/
def statusTurns (statuses : List String) : List CaseTurn × CaseStore :=
  Turn.playAll caseWorld (CaseTask.body plainText) CaseStore.reply (statusTasks statuses)
    ([], noCases)

theorem sequence_statusTurns (statuses : List String) :
    Sequence caseWorld (CaseTask.body plainText) BetweenTasks noCases
      (statusTurns statuses).1 (statusTurns statuses).2 :=
  Sequence.playAll may_reply (statusTasks statuses) .start

/-- Closed, reopened and then put under investigation the case is acknowledged. -/
theorem consistent_of_attentive_reopened :
    ((statusTurns ["closed", "open", "investigating"]).2.cases.map Case.status =
      [.investigating]) ∧
    ∀ row ∈ (statusTurns ["closed", "open", "investigating"]).2.cases, row.Acknowledged := by
  have hopen : ∀ t ∈ (statusTurns ["closed", "open", "investigating"]).1,
      t.task.asked = some CaseStatus.investigating.text → ∀ n < t.events.length + 1,
        ∀ row ∈ (caseWorld.after t.before (t.events.take n)).cases, row.status.isOpen = true := by
    decide +kernel
  exact ⟨by decide +kernel, (consistent_of_attentive (sequence_statusTurns _) nodup_nil
    (fun row hrow => absurd hrow not_mem_nil)).2.2
      (fun t ht hasked => attentive_of_open (hopen t ht hasked) hasked) _ (.inl rfl)⟩

/-- A closed case that is moved to "investigating" is not acknowledged. -/
theorem investigated_unacknowledged :
    ¬∀ (rt : TextRuntime) (init s : CaseStore) (ts : List CaseTurn),
      Sequence caseWorld (CaseTask.body rt) BetweenTasks init ts s → init.Unique →
      (∀ row ∈ init.cases, row.ClosedAgrees ∧ row.Acknowledged) →
      ∀ row ∈ s.cases, row.Acknowledged := by
  intro hall
  have hack := hall plainText noCases _ _ (sequence_statusTurns ["closed", "investigating"])
    nodup_nil fun row hrow => absurd hrow not_mem_nil
  have hbad : ∃ row ∈ (statusTurns ["closed", "investigating"]).2.cases,
      row.status = .investigating ∧ row.acknowledgedAt = none := by
    decide +kernel
  obtain ⟨row, hrow, hstatus, hnone⟩ := hbad
  have hsome := hack row hrow hstatus
  rw [hnone] at hsome
  cases hsome

end AppliverySoar.Cases
